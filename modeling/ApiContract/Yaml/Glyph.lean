import ApiContract.Yaml.Fault

/-!
# Characters in their places

The structure of a YAML text lies in its columns. A text is read as the list of its characters, each
with its place, the ends of its lines made uniform.
-/

namespace ApiContract.Yaml

/-- A character that ends a line. -/
def isBreak (c : Char) : Bool :=
  c == '\n' || c == '\r' || c == '\u0085' || c == '\u2028' || c == '\u2029'

/-- A character that may stand in a text. -/
def isAllowed (c : Char) : Bool :=
  let n := c.toNat
  n == 0x09 || n == 0x0A || n == 0x0D || n == 0x85 || (0x20 ≤ n && n ≤ 0x7E) ||
    (0xA0 ≤ n && n ≤ 0xD7FF) || (0xE000 ≤ n && n ≤ 0xFFFD) || 0x10000 ≤ n

/-- A character, how many characters and lines stand before it, and its column. -/
structure Glyph where
  char : Char
  index : Nat
  line : Nat
  column : Nat
  deriving DecidableEq, Repr

namespace Glyph

/-- The end of a line in its uniform spelling. -/
def uniform (c : Char) : Char := if c == '\u2028' || c == '\u2029' then c else '\n'

/-- The characters of a text from a place on. -/
def ofChars (index line column : Nat) : List Char → List Glyph
  | [] => []
  | '\r' :: '\n' :: cs => ⟨'\n', index, line, column⟩ :: ofChars (index + 2) (line + 1) 0 cs
  | c :: cs =>
    if isBreak c then ⟨uniform c, index, line, column⟩ :: ofChars (index + 1) (line + 1) 0 cs
    else ⟨c, index, line, column⟩ :: ofChars (index + 1) line (column + 1) cs

/-- The characters of a text, none of which may be a control character. -/
def ofText (text : String) : Except Fault (List Glyph) :=
  if text.toList.all isAllowed then .ok (ofChars 0 0 0 text.toList)
  else .error .forbiddenCharacter

/-- The end of a line. -/
def isBreak (g : Glyph) : Bool := Yaml.isBreak g.char

/-- A blank or a tab. -/
def isBlank (g : Glyph) : Bool := g.char == ' ' || g.char == '\t'

/-- A blank, a tab or the end of a line. -/
def isSpace (g : Glyph) : Bool := g.isBlank || g.isBreak

end Glyph

/-- The characters themselves. -/
def chars (text : List Glyph) : List Char := text.map Glyph.char

/-- Whether a text begins with a character. -/
def startsWith (c : Char) : List Glyph → Bool
  | [] => false
  | g :: _ => g.char == c

/-- Whether a word may end before a text: the text is empty or begins with a space. -/
def startsSpace : List Glyph → Bool
  | [] => true
  | g :: _ => g.isSpace

/-- Whether a text begins with three times a character alone at the beginning of a line. -/
def startsMarkerOf (mark : Char) : List Glyph → Bool
  | a :: b :: c :: rest =>
    a.column == 0 && a.char == mark && b.char == mark && c.char == mark && startsSpace rest
  | _ => false

/-- Whether a text begins with the marker of the beginning or the end of a document. -/
def startsMarker (text : List Glyph) : Bool :=
  startsMarkerOf '-' text || startsMarkerOf '.' text

end ApiContract.Yaml
