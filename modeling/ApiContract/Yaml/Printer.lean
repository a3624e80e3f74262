import ApiContract.Json.Printer
import ApiContract.Yaml.Glyph
import ApiContract.Yaml.Plain

/-!
# Writing YAML

A value is written in block style: members and items one a line, two blanks deeper than what holds
them, except that the items of a member stand below its key. Text without quotes would be read back
as text; anything else is quoted, or written as a block if it has several lines.
-/

namespace ApiContract.Yaml

/-! ### Characters -/

/-- A character after which a mark has its meaning, or the end of the text. -/
def isEdge : Option Char → Bool
  | some c => c == ' ' || c == '\t' || c == '\x00' || isBreak c
  | none => true

/-- A character that can be written as it is. -/
def isPrintable (c : Char) : Bool :=
  let n := c.toNat
  n == 0x0A || (0x20 ≤ n && n ≤ 0x7E) || (0xA0 ≤ n && n ≤ 0xD7FF) ||
    (0xE000 ≤ n && n ≤ 0xFFFD && n != 0xFEFF) || 0x10000 ≤ n

/-! ### Styles -/

/-- How a text is written. -/
inductive ScalarStyle where
  | plain
  | single
  | double
  | literal
  deriving DecidableEq, Repr

/-- The marks that a plain scalar cannot start with. -/
def startMarks : List Char := "#,[]\x7b\x7d&*!|>'\"%@`".toList

/-- Whether a mark of the format stands in a text behind its first character, given the character
before. -/
def marksBehind (before : Char) : List Char → Bool
  | [] => false
  | c :: cs =>
    (c == ':' && isEdge cs.head?) || (c == '#' && isEdge (some before)) || marksBehind c cs

/-- Whether a mark of the format stands in a text. -/
def hasMarks : List Char → Bool
  | [] => false
  | c :: cs =>
    startMarks.contains c || ((c == '?' || c == ':' || c == '-') && isEdge cs.head?) ||
      "---".toList.isPrefixOf (c :: cs) || "...".toList.isPrefixOf (c :: cs) || marksBehind c cs

/-- Whether the characters of one class stand somewhere right before those of another. -/
def follows (p q : Char → Bool) : List Char → Bool
  | a :: b :: cs => (p a && q b) || follows p q (b :: cs)
  | _ => false

/-- Whether a text has a blank or a line end at its start or end. -/
def hasLooseEnds (cs : List Char) : Bool :=
  let loose (c : Char) : Bool := c == ' ' || isBreak c
  cs.head?.any loose || cs.getLast?.any loose

/-- Whether every character can be written as it is and no blank stands before a line end. -/
def isClean (cs : List Char) : Bool := cs.all isPrintable && !follows (· == ' ') isBreak cs

/-- Whether a text can be written without quotes. -/
def allowsPlain (cs : List Char) : Bool :=
  isClean cs && !hasLooseEnds cs && !cs.any isBreak && !hasMarks cs

/-- Whether a text can be written in single quotes. -/
def allowsSingle (cs : List Char) : Bool := isClean cs && !follows isBreak (· == ' ') cs

/-- Whether a text can be written as a block. -/
def allowsBlock (cs : List Char) : Bool :=
  isClean cs && !cs.isEmpty && cs.getLast? != some ' '

/-- The style of a text. -/
def styleOf (s : String) : ScalarStyle :=
  let cs := s.toList
  if cs.contains '\n' then (if allowsBlock cs then .literal else .double)
  else if Plain.ofText s == .text && !Plain.isPadded cs && allowsPlain cs then .plain
  else if allowsSingle cs then .single
  else .double

/-- Whether a text can be a key in front of a colon on one line. -/
def isSimpleKey (s : String) : Bool := !s.toList.any isBreak && s.utf8ByteSize ≤ 128

/-! ### Scalars -/

/-- The letters for characters in double quotes. -/
def escapeLetters : List (Char × Char) := [
  ('\x00', '0'), ('\x07', 'a'), ('\x08', 'b'), ('\t', 't'), ('\n', 'n'), ('\x0b', 'v'),
  ('\x0c', 'f'), ('\r', 'r'), ('\x1b', 'e'), ('"', '"'), ('\\', '\\'), ('\u0085', 'N'),
  ('\u00a0', '_'), ('\u2028', 'L'), ('\u2029', 'P')]

/-- A character in double quotes. -/
def doubleChar (c : Char) : List Char :=
  if isPrintable c && !isBreak c && c != '"' && c != '\\' then [c]
  else
    match escapeLetters.lookup c with
    | some letter => ['\\', letter]
    | none =>
      let (mark, width) :=
        if c.toNat ≤ 0xFF then ('x', 2) else if c.toNat ≤ 0xFFFF then ('u', 4) else ('U', 8)
      '\\' :: mark :: (Text.hexPadded width c.toNat).map Char.toUpper

/-- A text in double quotes. -/
def doubleQuoted (cs : List Char) : List Char := '"' :: cs.flatMap doubleChar ++ ['"']

/-- Blanks. -/
def pad (n : Nat) : List Char := List.replicate n ' '

/-- The characters of a text in single quotes; what follows a line end is indented. -/
def singleChars (indent : Nat) (afterBreak : Bool) : List Char → List Char
  | [] => if afterBreak then pad indent else []
  | c :: cs =>
    if isBreak c then c :: singleChars indent true cs
    else
      (if afterBreak then pad indent else []) ++
        (if c = '\'' then ['\'', '\''] else [c]) ++ singleChars indent false cs

/-- A text in single quotes. -/
def singleQuoted (indent : Nat) (cs : List Char) : List Char :=
  '\'' :: singleChars indent false cs ++ ['\'']

/-- The lines of a block; each that is not empty is indented. -/
def blockChars (indent : Nat) (afterBreak : Bool) : List Char → List Char
  | [] => []
  | c :: cs =>
    if isBreak c then c :: blockChars indent true cs
    else (if afterBreak then pad indent else []) ++ c :: blockChars indent false cs

/-- The marks of a block: the depth of its lines if the first one starts with a blank, and what
becomes of the line ends behind the last line. -/
def blockMarks (cs : List Char) : List Char :=
  let depth := if cs.head?.any (fun c => c == ' ' || isBreak c) then ['2'] else []
  let ending := match cs.reverse with
    | [] => ['-']
    | [c] => if isBreak c then ['+'] else ['-']
    | c :: before :: _ => if !isBreak c then ['-'] else if isBreak before then ['+'] else []
  '|' :: depth ++ ending

/-- A text as a block. -/
def block (indent : Nat) (cs : List Char) : List Char :=
  blockMarks cs ++ '\n' :: blockChars indent true cs

/-- A text in its style, below what is indented by `indent`. -/
def scalar (indent : Nat) (s : String) : List Char :=
  match styleOf s with
  | .plain => s.toList
  | .single => singleQuoted indent s.toList
  | .double => doubleQuoted s.toList
  | .literal => block indent s.toList

/-- The text of a number. -/
def numberText : Number → String
  | .integer n => toString n
  | .real x => x.text ⟨false⟩

/-! ### Collections -/

/-- Ends the line of a written text, if it has not ended. -/
def endLine (written : List Char) : List Char :=
  match written.getLast? with
  | some c => if isBreak c then written else written ++ ['\n']
  | none => []

/-- Pieces on lines of their own, each but the first one behind an indentation. -/
def stacked (indent : Nat) : List (List Char) → List Char
  | [] => []
  | [piece] => piece
  | piece :: rest => endLine piece ++ pad indent ++ stacked indent rest

mutual

/-- A value behind an indicator that stands `indent` deep; a collection starts on the same line. -/
def behind (indent : Nat) : Json → List Char
  | .null => " null".toList
  | .bool b => ' ' :: (Json.boolText b).toList
  | .number n => ' ' :: (numberText n).toList
  | .string s => ' ' :: scalar (indent + 2) s
  | .array [] => " []".toList
  | .object [] => " \x7b\x7d".toList
  | .array (item :: items) =>
    ' ' :: stacked (indent + 2) (itemTexts (indent + 2) (item :: items))
  | .object (m :: ms) =>
    ' ' :: stacked (indent + 2) (memberTexts (indent + 2) (m :: ms))

/-- A value behind the colon of a key that stands `indent` deep; a collection starts below. -/
def below (indent : Nat) : Json → List Char
  | .null => " null".toList
  | .bool b => ' ' :: (Json.boolText b).toList
  | .number n => ' ' :: (numberText n).toList
  | .string s => ' ' :: scalar (indent + 2) s
  | .array [] => " []".toList
  | .object [] => " \x7b\x7d".toList
  | .array (item :: items) =>
    '\n' :: pad indent ++ stacked indent (itemTexts indent (item :: items))
  | .object (m :: ms) =>
    '\n' :: pad (indent + 2) ++ stacked (indent + 2) (memberTexts (indent + 2) (m :: ms))

/-- Items, each behind a dash. -/
def itemTexts (indent : Nat) : List Json → List (List Char)
  | [] => []
  | item :: items => ('-' :: behind indent item) :: itemTexts indent items

/-- Members: a simple key stands in front of its value, any other on lines of its own. -/
def memberTexts (indent : Nat) : List (String × Json) → List (List Char)
  | [] => []
  | (key, v) :: ms =>
    (if isSimpleKey key then scalar (indent + 2) key ++ ':' :: below indent v
      else endLine ('?' :: ' ' :: scalar (indent + 2) key) ++ pad indent ++
        ':' :: behind indent v) ::
      memberTexts indent ms

end

/-- The text of a value. -/
def render (v : Json) : String :=
  let body : List Char := match v with
    | .array (item :: items) => stacked 0 (itemTexts 0 (item :: items))
    | .object (m :: ms) => stacked 0 (memberTexts 0 (m :: ms))
    | other => (below 0 other).drop 1
  String.ofList (endLine body)

end ApiContract.Yaml
