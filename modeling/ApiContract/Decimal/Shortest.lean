import ApiContract.Decimal.Binary64

/-!
# The shortest decimal of a binary64 number

The reals that round to a number form an interval around it. Of the decimals in that interval, the
ones with fewest digits are taken, of those the nearest to the number, and of two nearest the one
with an even last digit. `Binary64.text` then writes the digits, positionally or with an exponent.
-/

namespace ApiContract.Binary64

/-- A positive number as `2 ^ (exponent - 2)` units, and the ends of the interval of the reals that
round to it, in the same units. -/
def bounds (x : Binary64) : Nat × Nat × Nat :=
  let m := x.significand
  let low := if m = Nat.pow 2 52 ∧ minExponent < x.exponent then 4 * m - 1 else 4 * m - 2
  (low, 4 * m, 4 * m + 2)

/-- The least `j` from `start` on with `den ≤ num * 10 ^ j`, searched in `fuel` steps. -/
def leadingZeros (num den : Nat) : (fuel start : Nat) → Nat
  | 0, j => j
  | fuel + 1, j => if den ≤ num * Nat.pow 10 j then j else leadingZeros num den fuel (j + 1)

/-- The position of the decimal point of a positive fraction: the `k` with
`10 ^ (k - 1) ≤ num / den < 10 ^ k`. -/
def pointPosition (num den : Nat) : Int :=
  if den ≤ num then (Nat.toDigits 10 (num / den)).length
  else
    -- `77 / 256` is just below the decimal logarithm of 2, so the start is never too far on.
    let start := (den.log2 - num.log2 - 1) * 77 / 256
    1 - (leadingZeros num den 350 start : Int)

/-- Of the two neighbours of `num / den` on the grid `10 ^ p`, the one to use, if it lies in the
interval from `low / den` to `high / den`, whose ends belong to it when `closed` holds. -/
def gridPoint? (closed : Bool) (low num high den : Nat) (p : Int) : Option Nat :=
  let (up, down) := if 0 ≤ p then (Nat.pow 10 p.toNat, 1) else (1, Nat.pow 10 (-p).toNat)
  -- A grid point `f` is compared as `f * up * den` against `num * down`.
  let unit := up * den
  let f := num * down / unit
  let inside (g : Nat) : Bool :=
    let v := g * unit
    if closed then low * down ≤ v && v ≤ high * down else low * down < v && v < high * down
  let below := num * down - f * unit
  let above := (f + 1) * unit - num * down
  match inside f, inside (f + 1) with
  | false, false => none
  | true, false => some f
  | false, true => some (f + 1)
  | true, true => some (if below < above || (below == above && f % 2 == 0) then f else f + 1)

/-- The first grid with a point in the interval, from `n` digits on; the point and its grid. -/
def search (closed : Bool) (low num high den : Nat) (k : Int) : (fuel n : Nat) → Nat × Int
  | 0, n => (num / den, k - n)
  | fuel + 1, n =>
    match gridPoint? closed low num high den (k - n) with
    | some f => (f, k - n)
    | none => search closed low num high den k fuel (n + 1)

/-- A positive number's shortest digits, with no zero at the end, and the position of its decimal
point: the number reads `0.d₁d₂… * 10 ^ k`. -/
def shortest (x : Binary64) : List Char × Int :=
  let (low, num, high) := x.bounds
  let e := x.exponent - 2
  let (mul, den) := if 0 ≤ e then (Nat.pow 2 e.toNat, 1) else (1, Nat.pow 2 (-e).toNat)
  let num := num * mul
  let k := pointPosition num den
  let (f, p) := search (x.significand % 2 == 0) (low * mul) num (high * mul) den k 17 1
  let digits := Nat.toDigits 10 f
  ((digits.reverse.dropWhile (· == '0')).reverse, p + digits.length)

/-- How an exponent is written. -/
structure ExponentStyle where
  /-- Whether a positive exponent has a plus sign. -/
  plus : Bool

/-- The text of a number in its shortest digits: positional, with at least one digit on either side
of the point, while the point stands no more than 4 places before the digits and no more than 16
behind the first; with an exponent otherwise. -/
def text (style : ExponentStyle) (x : Binary64) : String :=
  let sign := if x.negative then ['-'] else []
  if x.isZero then String.ofList (sign ++ ['0', '.', '0'])
  else
    let (digits, k) := x.shortest
    let n := (digits.length : Int)
    let body : List Char :=
      if n ≤ k ∧ k ≤ 16 then
        digits ++ List.replicate (k - n).toNat '0' ++ ['.', '0']
      else if 0 < k ∧ k ≤ 16 then
        digits.take k.toNat ++ '.' :: digits.drop k.toNat
      else if -5 < k ∧ k ≤ 0 then
        ['0', '.'] ++ List.replicate (-k).toNat '0' ++ digits
      else
        let e := k - 1
        let expSign := if e < 0 then ['-'] else if style.plus then ['+'] else []
        let expText := expSign ++ Nat.toDigits 10 e.natAbs
        match digits with
        | [] => []
        | [d] => d :: 'e' :: expText
        | d :: ds => d :: '.' :: ds ++ 'e' :: expText
    String.ofList (sign ++ body)

end ApiContract.Binary64
