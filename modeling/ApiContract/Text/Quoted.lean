import ApiContract.Text.Class

/-!
# Quoted text

Text between double quotes, in the two forms that the library writes: the literal of the generated
code and the form that error messages use. Both escape the same characters; they differ in the
character NUL only.
-/

namespace ApiContract.Text

/-- The digits of `n` in base 16, lowercase, no leading zero. -/
def hexDigits (n : Nat) : List Char :=
  Nat.toDigits 16 n

/-- `n` in base 16, lowercase, in at least `width` digits. -/
def hexPadded (width n : Nat) : List Char :=
  let digits := hexDigits n
  List.replicate (width - digits.length) '0' ++ digits

/-- A character as it stands in a quoted text. -/
def escaped (c : Char) : List Char :=
  if c = '\x00' then ['\\', '0']
  else if c = '\t' then ['\\', 't']
  else if c = '\r' then ['\\', 'r']
  else if c = '\n' then ['\\', 'n']
  else if c = '"' then ['\\', '"']
  else if c = '\\' then ['\\', '\\']
  else if isHidden c then ['\\', 'u', '\x7b'] ++ hexDigits c.toNat ++ ['\x7d']
  else [c]

/-- A text in double quotes, as messages show it. -/
def quoted (s : String) : String :=
  String.ofList ('"' :: s.toList.flatMap escaped ++ ['"'])

/-- The characters of a string literal. A NUL before an octal digit is written in full, so that it
cannot be read as an octal escape. -/
def literalChars : List Char → List Char
  | [] => []
  | '\x00' :: c :: cs =>
    (if '0' ≤ c && c ≤ '7' then ['\\', 'x', '0', '0'] else ['\\', '0']) ++ literalChars (c :: cs)
  | c :: cs => escaped c ++ literalChars cs

/-- The string literal of a text in the generated code. -/
def literal (s : String) : String :=
  String.ofList ('"' :: literalChars s.toList ++ ['"'])

end ApiContract.Text
