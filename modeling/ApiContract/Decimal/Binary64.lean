/-!
# Finite binary64 numbers

A number is its sign, its significand and its exponent, so that every operation is exact arithmetic
on naturals followed by one rounding. `Binary64.ofRatio?` is that rounding: to nearest, a half going
to the even neighbour, with `none` for a value beyond the largest number.
-/

namespace ApiContract

/-- A finite number of the binary64 format, `± significand * 2 ^ exponent`. -/
structure Binary64 where
  negative : Bool
  significand : Nat
  exponent : Int
  deriving DecidableEq, Repr

namespace Binary64

/-- The least exponent of the format. -/
def minExponent : Int := -1074

/-- The greatest exponent of the format. -/
def maxExponent : Int := 971

/-- The zero of either sign. -/
def zero (negative : Bool) : Binary64 := ⟨negative, 0, minExponent⟩

/-- Whether the number is a zero, of either sign. -/
def isZero (x : Binary64) : Bool := x.significand == 0

/-- Numeric equality: the two zeros are equal. -/
def same (x y : Binary64) : Bool := x == y || (x.isZero && y.isZero)

/-- The fraction `num / den` divided by `2 ^ k`. -/
def scale (num den : Nat) (k : Int) : Nat × Nat :=
  if 0 ≤ k then (num, den * Nat.pow 2 k.toNat) else (num * Nat.pow 2 (-k).toNat, den)

/-- The exponent that gives a positive fraction a significand below `2 ^ 53`, and no smaller one
than the format allows. -/
def exponentOf (num den : Nat) : Int :=
  let e := (num.log2 : Int) - den.log2 - 53
  let (n, d) := scale num den (e + 53)
  max minExponent (if n < d then e else e + 1)

/-- The quotient rounded to the nearest natural, a half going to the even one. -/
def roundDiv (num den : Nat) : Nat :=
  let q := num / den
  let r := num % den
  if den < 2 * r || (2 * r == den && q % 2 == 1) then q + 1 else q

/-- The number nearest to `± num / den`, if the format reaches that far. -/
def ofRatio? (negative : Bool) (num den : Nat) : Option Binary64 :=
  if num = 0 then some (zero negative)
  else
    let e := exponentOf num den
    let (n, d) := scale num den e
    let q := roundDiv n d
    let (q, e) := if q = Nat.pow 2 53 then (Nat.pow 2 52, e + 1) else (q, e)
    if maxExponent < e then none else some ⟨negative, q, e⟩

/-- The magnitude of a number as a fraction. -/
def ratio (x : Binary64) : Nat × Nat :=
  if 0 ≤ x.exponent then (x.significand * Nat.pow 2 x.exponent.toNat, 1)
  else (x.significand, Nat.pow 2 (-x.exponent).toNat)

/-- The rounded product. -/
def mul? (x y : Binary64) : Option Binary64 :=
  let (a, b) := x.ratio
  let (c, d) := y.ratio
  ofRatio? (x.negative != y.negative) (a * c) (b * d)

/-- The rounded quotient by a number other than zero. -/
def div? (x y : Binary64) : Option Binary64 :=
  let (a, b) := x.ratio
  let (c, d) := y.ratio
  ofRatio? (x.negative != y.negative) (a * d) (b * c)

/-- The number nearest to `± digits * 10 ^ exponent`. -/
def ofDecimal? (negative : Bool) (digits : Nat) (exponent : Int) : Option Binary64 :=
  if 0 ≤ exponent then ofRatio? negative (digits * Nat.pow 10 exponent.toNat) 1
  else ofRatio? negative digits (Nat.pow 10 (-exponent).toNat)

/-- The two zeros are the only different numbers that are the same. -/
theorem same_iff (x y : Binary64) :
    x.same y = true ↔ x = y ∨ (x.significand = 0 ∧ y.significand = 0) := by
  simp [same, isZero]

end Binary64

end ApiContract
