import ApiContract.Json.Fault

/-!
# Strings and numbers in JSON text

Each has two readers. `pass…` finds where a string or number ends and checks no more than that
needs; `read…` gives its value. What can be read can be passed over, but not the other way round: a
lone surrogate and a number out of range can only be passed over.
-/

namespace ApiContract.Json

/-- The rest of a text and the place where it begins. -/
abbrev Rest := Place × List Char

/-! ### Strings -/

/-- The value of a hexadecimal digit. -/
def hexValue? (c : Char) : Option Nat :=
  if '0' ≤ c ∧ c ≤ '9' then some (c.toNat - 48)
  else if 'a' ≤ c ∧ c ≤ 'f' then some (c.toNat - 87)
  else if 'A' ≤ c ∧ c ≤ 'F' then some (c.toNat - 55)
  else none

/-- The value of four hexadecimal digits. -/
def hex4? (a b c d : Char) : Option Nat := do
  return (((← hexValue? a) * 16 + (← hexValue? b)) * 16 + (← hexValue? c)) * 16 + (← hexValue? d)

/-- The fault of an escape whose next four bytes are not four hexadecimal digits. -/
def hexFault (p : Place) (cs : List Char) : Fault :=
  match p.skipBytes? 4 cs with
  | some q => ⟨.invalidEscape, q⟩
  | none => ⟨.endInString, p.finish cs⟩

/-- The character of an escape of one letter. -/
def simpleEscape? : Char → Option Char
  | '"' => some '"'
  | '\\' => some '\\'
  | '/' => some '/'
  | 'b' => some '\x08'
  | 'f' => some '\x0c'
  | 'n' => some '\n'
  | 'r' => some '\r'
  | 't' => some '\t'
  | _ => none

/-- The place `n` columns on. -/
def Place.right (p : Place) (n : Nat) : Place := ⟨p.line, p.column + n⟩

/-- Passes over a string, from behind its opening quote. -/
def passString : List Char → Place → Except Fault Rest
  | [], p => .error ⟨.endInString, p⟩
  | '"' :: cs, p => .ok (p.right 1, cs)
  | ['\\'], p => .error ⟨.endInString, p.right 1⟩
  | '\\' :: 'u' :: cs, p =>
    match cs with
    | a :: b :: c :: d :: rest =>
      if (hex4? a b c d).isSome then passString rest (p.right 6)
      else .error (hexFault (p.right 2) cs)
    | _ => .error (hexFault (p.right 2) cs)
  | '\\' :: e :: cs, p =>
    if (simpleEscape? e).isSome then passString cs (p.right 2)
    else .error ⟨.invalidEscape, (p.right 1).next [e]⟩
  | c :: cs, p =>
    if c.toNat < 0x20 then .error ⟨.controlCharacter, p.next [c]⟩ else passString cs (p.after c)

/-- What follows a leading surrogate in the text: the trailing one's value, or the fault. -/
def trailingSurrogate (cs : List Char) (p : Place) : Except Fault Nat :=
  match cs with
  | [] => .error ⟨.endInString, p⟩
  | '\\' :: cs =>
    match cs with
    | [] => .error ⟨.endInString, p.right 1⟩
    | 'u' :: cs =>
      match cs with
      | a :: b :: c :: d :: _ =>
        match hex4? a b c d with
        | some n =>
          if 0xDC00 ≤ n ∧ n ≤ 0xDFFF then .ok n else .error ⟨.loneSurrogate, p.right 6⟩
        | none => .error (hexFault (p.right 2) cs)
      | _ => .error (hexFault (p.right 2) cs)
    | _ => .error ⟨.endOfEscape, (p.right 1).next cs⟩
  | _ => .error ⟨.endOfEscape, p.next cs⟩

/-- Reads a string, from behind its opening quote; `done` holds its characters so far, last first.
-/
def readString (done : List Char) : List Char → Place → Except Fault String
  | [], p => .error ⟨.endInString, p⟩
  | '"' :: _, _ => .ok (String.ofList done.reverse)
  | ['\\'], p => .error ⟨.endInString, p.right 1⟩
  | '\\' :: 'u' :: cs, p =>
    match cs with
    | a :: b :: c :: d :: rest =>
      match hex4? a b c d with
      | none => .error (hexFault (p.right 2) cs)
      | some n =>
        if 0xDC00 ≤ n ∧ n ≤ 0xDFFF then .error ⟨.loneSurrogate, p.right 6⟩
        else if 0xD800 ≤ n ∧ n ≤ 0xDBFF then
          match trailingSurrogate rest (p.right 6) with
          | .error e => .error e
          | .ok m =>
            match rest with
            | _ :: _ :: _ :: _ :: _ :: _ :: rest =>
              readString (Char.ofNat ((n - 0xD800) * 0x400 + (m - 0xDC00) + 0x10000) :: done)
                rest (p.right 12)
            | _ => .error ⟨.endInString, p⟩
        else readString (Char.ofNat n :: done) rest (p.right 6)
    | _ => .error (hexFault (p.right 2) cs)
  | '\\' :: e :: cs, p =>
    match simpleEscape? e with
    | some c => readString (c :: done) cs (p.right 2)
    | none => .error ⟨.invalidEscape, (p.right 1).next [e]⟩
  | c :: cs, p =>
    if c.toNat < 0x20 then .error ⟨.controlCharacter, p.next [c]⟩
    else readString (c :: done) cs (p.after c)

/-! ### Numbers -/

/-- The leading decimal digits of a text and the rest of it. -/
def spanDigits (cs : List Char) : List Char × List Char := cs.span Char.isDigit

/-- Passes over an exponent, from behind its letter. -/
def passExponent (p : Place) (cs : List Char) : Except Fault Rest :=
  let (p, cs) := match cs with
    | '+' :: cs => (p.right 1, cs)
    | '-' :: cs => (p.right 1, cs)
    | cs => (p, cs)
  match spanDigits cs with
  | ([], rest) => .error ⟨.invalidNumber, p.next rest⟩
  | (digits, rest) => .ok (p.right digits.length, rest)

/-- Passes over what follows the whole digits of a number. -/
def passFraction (p : Place) : List Char → Except Fault Rest
  | '.' :: cs =>
    match spanDigits cs with
    | ([], rest) => .error ⟨.invalidNumber, (p.right 1).next rest⟩
    | (digits, rest) =>
      let p := p.right (1 + digits.length)
      match rest with
      | 'e' :: rest => passExponent (p.right 1) rest
      | 'E' :: rest => passExponent (p.right 1) rest
      | rest => .ok (p, rest)
  | 'e' :: cs => passExponent (p.right 1) cs
  | 'E' :: cs => passExponent (p.right 1) cs
  | cs => .ok (p, cs)

/-- Passes over a number, from behind its sign. -/
def passNumber (p : Place) : List Char → Except Fault Rest
  | '0' :: cs =>
    match cs with
    | d :: _ =>
      if d.isDigit then .error ⟨.invalidNumber, (p.right 1).next cs⟩
      else passFraction (p.right 1) cs
    | [] => .ok (p.right 1, [])
  | cs =>
    match spanDigits cs with
    | ([], rest) => .error ⟨.invalidNumber, p.next rest⟩
    | (digits, rest) => passFraction (p.right digits.length) rest

/-- The digits of a number as far as they are used: the significand, the power of ten by which it
counts, and whether a digit has been left out because the significand would exceed 64 bits. -/
structure Significand where
  value : Nat
  exponent : Int
  full : Bool

/-- The digit's number. -/
def digitValue (c : Char) : Nat := c.toNat - 48

/-- Adds a whole digit; left out, it still counts as a power of ten. -/
def Significand.addWhole (s : Significand) (c : Char) : Significand :=
  let v := s.value * 10 + digitValue c
  if s.full || Nat.pow 2 64 ≤ v then ⟨s.value, s.exponent + 1, true⟩ else ⟨v, s.exponent, false⟩

/-- Adds a digit behind the point; left out, it counts for nothing. -/
def Significand.addFraction (s : Significand) (c : Char) : Significand :=
  let v := s.value * 10 + digitValue c
  if s.full || Nat.pow 2 64 ≤ v then ⟨s.value, s.exponent, true⟩ else ⟨v, s.exponent - 1, false⟩

/-- The power of ten as a number. -/
def powerOfTen (n : Nat) : Option Binary64 := Binary64.ofDecimal? false 1 n

/-- Divides by `10 ^ 308` while the exponent is below that, then scales once by the power of ten
that is left. Every step rounds; `none` when the result is out of range. -/
def scaleDecimal (x : Binary64) (exponent : Int) : (steps : Nat) → Option Binary64
  | 0 => some (Binary64.zero false)
  | steps + 1 =>
    if x.isZero then some x
    else if exponent < -308 then do
      scaleDecimal (← x.div? (← powerOfTen 308)) (exponent + 308) steps
    else if 308 < exponent then none
    else if 0 ≤ exponent then do x.mul? (← powerOfTen exponent.toNat)
    else do x.div? (← powerOfTen (-exponent).toNat)

/-- The number that a decimal literal denotes: its significand is rounded to a binary64 number and
that is scaled by the power of ten, with a rounding each. -/
def decimalValue? (negative : Bool) (significand : Nat) (exponent : Int) : Option Binary64 := do
  let x ← scaleDecimal (← Binary64.ofRatio? false significand 1) exponent 5
  return ⟨negative, x.significand, x.exponent⟩

/-- A literal with a point, an exponent or too many digits. -/
def finishReal (negative : Bool) (significand : Nat) (exponent : Int) (p : Place) :
    Except Fault Number :=
  match decimalValue? negative significand exponent with
  | some x => .ok (.real x)
  | none => .error ⟨.numberOutOfRange, p⟩

/-- A number with its sign. -/
def signed (minus : Bool) (n : Nat) : Int := if minus then -n else n

/-- Reads the digits of an exponent; one beyond 32 bits ends the number with zero or a fault. -/
def readExponentDigits (negative : Bool) (s : Significand) (minus : Bool) :
    Nat → List Char → Place → Except Fault Number
  | value, c :: cs, p =>
    if c.isDigit then
      let next := value * 10 + digitValue c
      if Nat.pow 2 31 ≤ next then
        if s.value ≠ 0 ∧ !minus then .error ⟨.numberOutOfRange, p.right 1⟩
        else .ok (.real (Binary64.zero negative))
      else readExponentDigits negative s minus next cs (p.right 1)
    else finishReal negative s.value (s.exponent + signed minus value) p
  | value, [], p => finishReal negative s.value (s.exponent + signed minus value) p

/-- Reads an exponent, from behind its letter. -/
def readExponent (negative : Bool) (s : Significand) (p : Place) (cs : List Char) :
    Except Fault Number :=
  let (minus, p, cs) := match cs with
    | '+' :: cs => (false, p.right 1, cs)
    | '-' :: cs => (true, p.right 1, cs)
    | cs => (false, p, cs)
  match cs with
  | [] => .error ⟨.endInValue, p⟩
  | c :: cs =>
    if c.isDigit then readExponentDigits negative s minus (digitValue c) cs (p.right 1)
    else .error ⟨.invalidNumber, p.next [c]⟩

/-- Reads what follows the whole digits of a number. -/
def readFraction (negative : Bool) (s : Significand) (p : Place) (cs : List Char) :
    Except Fault Number :=
  match cs with
  | '.' :: cs =>
    match spanDigits cs with
    | ([], []) => .error ⟨.endInValue, p.right 1⟩
    | ([], rest) => .error ⟨.invalidNumber, (p.right 1).next rest⟩
    | (digits, rest) =>
      let s := digits.foldl Significand.addFraction { s with full := false }
      let p := p.right (1 + digits.length)
      match rest with
      | 'e' :: rest => readExponent negative s (p.right 1) rest
      | 'E' :: rest => readExponent negative s (p.right 1) rest
      | _ => finishReal negative s.value s.exponent p
  | 'e' :: cs => readExponent negative s (p.right 1) cs
  | 'E' :: cs => readExponent negative s (p.right 1) cs
  | _ =>
    let n := signed negative s.value
    if s.full || !Number.fits n || (negative && s.value == 0) then
      finishReal negative s.value s.exponent p
    else .ok (.integer n)

/-- Reads a number, from behind its sign. -/
def readNumber (negative : Bool) (p : Place) : List Char → Except Fault Number
  | [] => .error ⟨.endInValue, p⟩
  | '0' :: cs =>
    match cs with
    | d :: _ =>
      if d.isDigit then .error ⟨.invalidNumber, (p.right 1).next cs⟩
      else readFraction negative ⟨0, 0, false⟩ (p.right 1) cs
    | [] => readFraction negative ⟨0, 0, false⟩ (p.right 1) []
  | cs =>
    match spanDigits cs with
    | ([], rest) => .error ⟨.invalidNumber, p.next rest⟩
    | (digits, rest) =>
      readFraction negative (digits.foldl Significand.addWhole ⟨0, 0, false⟩)
        (p.right digits.length) rest

end ApiContract.Json
