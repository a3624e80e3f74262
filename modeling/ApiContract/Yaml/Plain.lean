import ApiContract.Decimal.Binary64

/-!
# Plain scalars

A scalar without quotes stands for null, a truth value, a number or a text, by its form alone.
Digits behind a leading zero are a text.
-/

namespace ApiContract.Yaml

/-- What a plain scalar stands for. -/
inductive Plain where
  | null
  | bool (value : Bool)
  | integer (n : Int)
  | real (x : Binary64)
  | infinite (isNegative : Bool)
  | notANumber
  | text
  deriving DecidableEq, Repr

namespace Plain

/-! ### Integers -/

/-- The value of a digit. -/
def digit? (c : Char) : Option Nat :=
  if c.isDigit then some (c.toNat - 48)
  else if 'a' ≤ c ∧ c ≤ 'z' then some (c.toNat - 87)
  else if 'A' ≤ c ∧ c ≤ 'Z' then some (c.toNat - 55)
  else none

/-- The number of digits in a base, given the value of the digits before. -/
def numberFrom (base : Nat) (value : Nat) : List Char → Option Nat
  | [] => some value
  | c :: cs =>
    match digit? c with
    | some d => if d < base then numberFrom base (value * base + d) cs else none
    | none => none

/-- The number that a text of one or more digits in a base is. -/
def number? (base : Nat) (cs : List Char) : Option Nat :=
  if cs.isEmpty then none else numberFrom base 0 cs

/-- The number of a text without a sign: decimal, or in base 16, 8 or 2 behind a mark. -/
def magnitude? : List Char → Option Nat
  | '0' :: 'x' :: cs => number? 16 cs
  | '0' :: 'o' :: cs => number? 8 cs
  | '0' :: 'b' :: cs => number? 2 cs
  | cs => number? 10 cs

/-- A text without one sign in front, and whether that was a minus. -/
def splitSign : List Char → Bool × List Char
  | '-' :: cs => (true, cs)
  | '+' :: cs => (false, cs)
  | cs => (false, cs)

/-- Whether a text is digits behind a leading zero. -/
def isPadded (cs : List Char) : Bool :=
  match (splitSign cs).2 with
  | '0' :: c :: rest => (c :: rest).all Char.isDigit
  | _ => false

/-- The integer that a text is, of 128 bits with or without a sign. -/
def integer? (cs : List Char) : Option Int :=
  if isPadded cs then none
  else
    let (isNegative, rest) := splitSign cs
    match magnitude? rest with
    | none => none
    | some n =>
      if isNegative then (if n ≤ Nat.pow 2 127 then some (-(n : Int)) else none)
      else if n < Nat.pow 2 128 then some n else none

/-! ### Real numbers -/

/-- The exponent at the end of a number; without one it is zero. -/
def exponent? : List Char → Option Int
  | [] => some 0
  | c :: cs =>
    if c = 'e' ∨ c = 'E' then
      let (isNegative, rest) := splitSign cs
      (number? 10 rest).map fun n => if isNegative then -(n : Int) else n
    else none

/-- The nearest number to a decimal; none beyond the greatest. Exponents far from those of any
number are decided by the number of digits. -/
def ofDecimal? (isNegative : Bool) (digits : Nat) (exponent : Int) : Option Binary64 :=
  let size : Int := (Nat.toDigits 10 digits).length + exponent
  if digits = 0 ∨ size < -400 then Binary64.ofDecimal? isNegative 0 0
  else if 400 < size then none
  else Binary64.ofDecimal? isNegative digits exponent

/-- The number that a text is: a sign, digits with one point among them or not, an exponent or
not. -/
def real? (cs : List Char) : Option Binary64 :=
  let (isNegative, rest) := splitSign cs
  let whole := rest.takeWhile Char.isDigit
  let rest := rest.dropWhile Char.isDigit
  let (places, rest) :=
    match rest with
    | '.' :: cs => (cs.takeWhile Char.isDigit, cs.dropWhile Char.isDigit)
    | cs => ([], cs)
  match number? 10 (whole ++ places), exponent? rest with
  | some digits, some e => ofDecimal? isNegative digits (e - places.length)
  | _, _ => none

/-! ### All scalars -/

/-- The spellings of null. -/
def nulls : List String := ["", "null", "Null", "NULL", "~"]

/-- The spellings of the truth values. -/
def truths : List (String × Bool) := [
  ("true", true), ("True", true), ("TRUE", true), ("false", false), ("False", false),
  ("FALSE", false)]

/-- The spellings of the numbers that are not finite. -/
def limits : List (String × Plain) := [
  (".inf", .infinite false), (".Inf", .infinite false), (".INF", .infinite false),
  ("+.inf", .infinite false), ("+.Inf", .infinite false), ("+.INF", .infinite false),
  ("-.inf", .infinite true), ("-.Inf", .infinite true), ("-.INF", .infinite true),
  (".nan", .notANumber), (".NaN", .notANumber), (".NAN", .notANumber)]

/-- The real number that a text is, unless it is digits behind a leading zero. -/
def float? (s : String) : Option Plain :=
  limits.lookup s <|> (real? s.toList).map .real

/-- What a plain scalar stands for. -/
def ofText (s : String) : Plain :=
  if nulls.contains s then .null
  else
    match truths.lookup s with
    | some b => .bool b
    | none =>
      match integer? s.toList with
      | some n => .integer n
      | none =>
        if isPadded s.toList then .text else (float? s).getD .text

end Plain

end ApiContract.Yaml
