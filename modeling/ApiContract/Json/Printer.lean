import ApiContract.Json.Basic
import ApiContract.Text.Quoted

/-!
# The text of a JSON value

Two layouts: `compact` without any blank, and `pretty` with one item or member a line, indented by
two spaces a level.
-/

namespace ApiContract

/-- A number in decimal. A binary64 number always shows a point or an exponent, and a positive
exponent has its sign. -/
def Number.text : Number → String
  | .integer n => toString n
  | .real x => x.text ⟨true⟩

namespace Json

/-- A character within a JSON string: controls, the quote and the backslash are escaped. -/
def escaped (c : Char) : List Char :=
  if c = '"' then ['\\', '"']
  else if c = '\\' then ['\\', '\\']
  else if c = '\x08' then ['\\', 'b']
  else if c = '\t' then ['\\', 't']
  else if c = '\n' then ['\\', 'n']
  else if c = '\x0c' then ['\\', 'f']
  else if c = '\r' then ['\\', 'r']
  else if c.toNat < 0x20 then ['\\', 'u'] ++ Text.hexPadded 4 c.toNat
  else [c]

/-- A text as a JSON string. -/
def quoted (s : String) : String :=
  String.ofList ('"' :: s.toList.flatMap escaped ++ ['"'])

/-- The text of `true` or `false`. -/
def boolText (b : Bool) : String := if b then "true" else "false"

mutual

/-- The text of a value without blanks. -/
def compact : Json → String
  | .null => "null"
  | .bool b => boolText b
  | .number n => n.text
  | .string s => quoted s
  | .array items => "[" ++ compactItems items ++ "]"
  | .object members => "\x7b" ++ compactMembers members ++ "\x7d"

/-- Items separated by commas. -/
def compactItems : List Json → String
  | [] => ""
  | [item] => compact item
  | item :: rest => compact item ++ "," ++ compactItems rest

/-- Members separated by commas. -/
def compactMembers : List (String × Json) → String
  | [] => ""
  | [(key, value)] => quoted key ++ ":" ++ compact value
  | (key, value) :: rest => quoted key ++ ":" ++ compact value ++ "," ++ compactMembers rest

end

/-- A line break and the indentation of a level. -/
def newline (level : Nat) : String :=
  String.ofList ('\n' :: List.replicate (2 * level) ' ')

mutual

/-- The text of a value, one item or member a line, inside `level` levels. -/
def prettyAt (level : Nat) : Json → String
  | .null => "null"
  | .bool b => boolText b
  | .number n => n.text
  | .string s => quoted s
  | .array [] => "[]"
  | .array items => "[" ++ prettyItems level items ++ newline level ++ "]"
  | .object [] => "\x7b\x7d"
  | .object members => "\x7b" ++ prettyMembers level members ++ newline level ++ "\x7d"

/-- Items on lines of their own. -/
def prettyItems (level : Nat) : List Json → String
  | [] => ""
  | [item] => newline (level + 1) ++ prettyAt (level + 1) item
  | item :: rest =>
    newline (level + 1) ++ prettyAt (level + 1) item ++ "," ++ prettyItems level rest

/-- Members on lines of their own. -/
def prettyMembers (level : Nat) : List (String × Json) → String
  | [] => ""
  | [(key, value)] => newline (level + 1) ++ quoted key ++ ": " ++ prettyAt (level + 1) value
  | (key, value) :: rest =>
    newline (level + 1) ++ quoted key ++ ": " ++ prettyAt (level + 1) value ++ "," ++
      prettyMembers level rest

end

/-- The text of a value, one item or member a line. -/
def pretty (v : Json) : String := prettyAt 0 v

end Json

end ApiContract
