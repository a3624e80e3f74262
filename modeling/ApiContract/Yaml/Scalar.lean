import ApiContract.Yaml.Glyph

/-!
# Reading scalars

A scalar is written plainly, in quotes or as a block of lines. Between two parts of a plain or
quoted scalar one line end stands for a blank, and of several the first is dropped.
-/

namespace ApiContract.Yaml

/-! ### Gaps -/

/-- The spaces between two parts of a scalar: the blanks before the first line end, and all line
ends. -/
structure Gap where
  blanks : List Char
  breaks : List Char

namespace Gap

/-- No space. -/
def none : Gap := ⟨[], []⟩

/-- What a gap stands for. -/
def text (gap : Gap) : List Char :=
  match gap.breaks with
  | [] => gap.blanks
  | ['\n'] => [' ']
  | '\n' :: more => more
  | breaks => breaks

/-- Whether a gap has a line end. -/
def hasBreak (gap : Gap) : Bool := !gap.breaks.isEmpty

/-- The spaces at the beginning of a text and what follows them. A tab left of the margin is
refused. -/
def scan (margin : Nat) (text : List Glyph) : Except Fault (Gap × List Glyph) :=
  let spaces := text.takeWhile Glyph.isSpace
  let lines := spaces.dropWhile Glyph.isBlank
  if lines.any fun g => g.char == '\t' && g.column < margin then .error .tabAsIndentation
  else
    .ok (⟨chars (spaces.takeWhile Glyph.isBlank), chars (lines.filter Glyph.isBreak)⟩,
      text.dropWhile Glyph.isSpace)

end Gap

/-! ### Plain scalars -/

/-- The marks that end a plain scalar in a flow collection. -/
def flowMarks : List Char := ",[]\x7b\x7d".toList

/-- The part of a plain scalar at the beginning of a text, up to a space or a mark that ends it. -/
def plainPart (inFlow : Bool) : List Glyph → Except Fault (List Char × List Glyph)
  | [] => .ok ([], [])
  | g :: rest =>
    if g.isSpace then .ok ([], g :: rest)
    else if inFlow && g.char == ':' && ('?' :: flowMarks).any (startsWith · rest) then
      .error .strayColon
    else if (g.char == ':' && startsSpace rest) || (inFlow && flowMarks.contains g.char) then
      .ok ([], g :: rest)
    else do
      let (part, rest) ← plainPart inFlow rest
      return (g.char :: part, rest)

/-- Whether the first character of a text is left of a margin. -/
def startsBefore (margin : Nat) : List Glyph → Bool
  | [] => false
  | g :: _ => g.column < margin

/-- The parts of a plain scalar behind a gap, whether a line end follows them, and what follows. -/
def plainParts (inFlow : Bool) (margin : Nat) :
    Nat → Gap → List Glyph → Except Fault (List Char × Bool × List Glyph)
  | 0, gap, text => .ok ([], gap.hasBreak, text)
  | fuel + 1, gap, text => do
    if startsMarker text || startsWith '#' text then return ([], gap.hasBreak, text)
    let (part, rest) ← plainPart inFlow text
    if part.isEmpty then return ([], gap.hasBreak, text)
    let (next, after) ← Gap.scan margin rest
    if !inFlow && startsBefore margin after then
      return (gap.text ++ part, next.hasBreak, after)
    let (more, ended, rest) ← plainParts inFlow margin fuel next after
    return (gap.text ++ part ++ more, ended, rest)

/-- The plain scalar at the beginning of a text, whether a line end follows it, and what follows. -/
def plainScalar (inFlow : Bool) (margin : Nat) (text : List Glyph) :
    Except Fault (List Char × Bool × List Glyph) :=
  plainParts inFlow margin (text.length + 1) Gap.none text

/-! ### Quoted scalars -/

/-- The part of a scalar in single quotes, up to a space or the quote that ends it. A quote inside
is written twice. -/
def singlePart : List Glyph → List Char × List Glyph
  | a :: b :: rest =>
    if a.isSpace then ([], a :: b :: rest)
    else if a.char == '\'' then
      if b.char == '\'' then
        let (part, rest) := singlePart rest
        ('\'' :: part, rest)
      else ([], a :: b :: rest)
    else
      let (part, rest) := singlePart (b :: rest)
      (a.char :: part, rest)
  | [a] => if a.isSpace || a.char == '\'' then ([], [a]) else ([a.char], [])
  | [] => ([], [])

/-- The characters that an escape of one letter stands for. -/
def escapes : List (Char × Char) := [
  ('0', '\x00'), ('a', '\x07'), ('b', '\x08'), ('t', '\t'), ('\t', '\t'), ('n', '\n'),
  ('v', '\x0b'), ('f', '\x0c'), ('r', '\r'), ('e', '\x1b'), (' ', ' '), ('"', '"'), ('/', '/'),
  ('\\', '\\'), ('N', '\u0085'), ('_', '\u00a0'), ('L', '\u2028'), ('P', '\u2029')]

/-- The number of digits behind the letter of an escape by number. -/
def escapeWidths : List (Char × Nat) := [('x', 2), ('u', 4), ('U', 8)]

/-- The value of a hexadecimal digit. -/
def hexDigit? (c : Char) : Option Nat :=
  if c.isDigit then some (c.toNat - 48)
  else if 'a' ≤ c ∧ c ≤ 'f' then some (c.toNat - 87)
  else if 'A' ≤ c ∧ c ≤ 'F' then some (c.toNat - 55)
  else none

/-- The number that hexadecimal digits are. -/
def hexNumber? (digits : List Char) : Option Nat :=
  digits.foldlM (fun n c => (hexDigit? c).map (n * 16 + ·)) 0

/-- The character of a number. -/
def charOf? (n : Nat) : Option Char := if n.isValidChar then some (Char.ofNat n) else none

/-- The character that the escape at the beginning of a text stands for, and what follows it. -/
def escaped (letter : Char) (rest : List Glyph) : Except Fault (Char × List Glyph) :=
  match escapes.lookup letter, escapeWidths.lookup letter with
  | some c, _ => .ok (c, rest)
  | none, none => .error .invalidEscape
  | none, some width =>
    if rest.length < width then .error .invalidEscape
    else
      match (hexNumber? (chars (rest.take width))).bind charOf? with
      | some c => .ok (c, rest.drop width)
      | none => .error .invalidEscape

/-- The part of a scalar in double quotes, up to a space or the quote that ends it, whether it ends
with an escaped line end, and what follows. -/
def doublePart : Nat → List Glyph → Except Fault (List Char × Bool × List Glyph)
  | 0, text => .ok ([], false, text)
  | _, [] => .ok ([], false, [])
  | fuel + 1, g :: rest =>
    if g.isSpace || g.char == '"' then .ok ([], false, g :: rest)
    else if g.char == '\\' then
      match rest with
      | [] => .error .invalidEscape
      | e :: rest =>
        if e.isBreak then .ok ([], true, rest)
        else do
          let (c, rest) ← escaped e.char rest
          let (part, joined, rest) ← doublePart fuel rest
          return (c :: part, joined, rest)
    else do
      let (part, joined, rest) ← doublePart fuel rest
      return (g.char :: part, joined, rest)

/-- The parts of a scalar up to its closing quote, and what follows the quote. A line end that is
escaped stands for nothing. -/
def quotedParts (quote : Char) : Nat → List Glyph → Except Fault (List Char × List Glyph)
  | 0, _ => .error .openQuote
  | fuel + 1, text => do
    if startsMarker text then throw .markerInQuotes
    let (part, joined, rest) ←
      if quote == '"' then doublePart text.length text
      else
        let (part, rest) := singlePart text
        pure (part, false, rest)
    match rest with
    | [] => throw .openQuote
    | g :: after =>
      if g.char == quote then return (part, after)
      let (gap, rest) ← Gap.scan 0 rest
      let (more, rest) ← quotedParts quote fuel rest
      return (part ++ (if joined then gap.breaks else gap.text) ++ more, rest)

/-- The scalar behind a quote, and what follows it. -/
def quotedScalar (quote : Char) (text : List Glyph) : Except Fault (List Char × List Glyph) :=
  quotedParts quote (text.length + 1) text

/-! ### Block scalars -/

/-- What becomes of the line ends behind the last line of a block. -/
inductive Chomping where
  | strip
  | clip
  | keep
  deriving DecidableEq, Repr

/-- The chomping that a mark asks for. -/
def chomping? (g : Glyph) : Option Chomping :=
  if g.char == '-' then some .strip else if g.char == '+' then some .keep else none

/-- The first line of a block: its chomping, its indentation if it is given, and what follows the
line. -/
def blockHeader (text : List Glyph) : Except Fault (Chomping × Option Nat × List Glyph) := do
  let digit? (text : List Glyph) : Option Nat × List Glyph :=
    match text with
    | d :: rest => if d.char.isDigit then (some (d.char.toNat - 48), rest) else (none, text)
    | [] => (none, [])
  let mark? (text : List Glyph) : Option Chomping × List Glyph :=
    match text with
    | g :: rest =>
      match chomping? g with
      | some chomping => (some chomping, rest)
      | none => (none, text)
    | [] => (none, [])
  let (first, rest) := mark? text
  let (indent, rest) := digit? rest
  let (chomping, rest) :=
    match first with
    | some chomping => (chomping, rest)
    | none =>
      match indent with
      | some _ => ((mark? rest).1.getD .clip, (mark? rest).2)
      | none => (.clip, rest)
  if indent = some 0 then throw .invalidBlockHeader
  let rest := rest.dropWhile Glyph.isBlank
  let rest := if startsWith '#' rest then rest.dropWhile (!·.isBreak) else rest
  match rest with
  | [] => return (chomping, indent, [])
  | g :: rest =>
    if g.isBreak then return (chomping, indent, rest) else throw .invalidBlockHeader

/-- The ends of empty lines, with the indentation of the line that follows skipped: up to a column,
or all of it. Answers also the greatest column of a line, and what follows. -/
def emptyLines (indent : Option Nat) (most : Nat) :
    List Glyph → Except Fault (List Char × Nat × List Glyph)
  | [] => .ok ([], most, [])
  | g :: rest =>
    let isWithin := indent.all (g.column < ·)
    if isWithin && g.char == ' ' then emptyLines indent most rest
    else if isWithin && g.char == '\t' then .error .tabAsIndentation
    else if g.isBreak then do
      let (breaks, most, rest) ← emptyLines indent (max most g.column) rest
      return (g.char :: breaks, most, rest)
    else .ok ([], max most g.column, g :: rest)

/-- A line of a block: its text, its end, and the ends of the empty lines behind it. -/
structure BlockLine where
  content : List Char
  ending : List Char
  emptied : List Char

namespace BlockLine

/-- Whether the text of a line begins with a blank. -/
def isIndented (l : BlockLine) : Bool := l.content.head?.any fun c => c == ' ' || c == '\t'

/-- What stands for the line ends between two lines. -/
def spacing (isFolded : Bool) (a b : BlockLine) : List Char :=
  if isFolded && a.ending == ['\n'] && !a.isIndented && !b.isIndented then
    if a.emptied.isEmpty then [' '] else a.emptied
  else a.ending ++ a.emptied

/-- What stands for the line ends behind the last line. -/
def final (chomping : Chomping) (l : BlockLine) : List Char :=
  match chomping with
  | .strip => []
  | .clip => l.ending
  | .keep => l.ending ++ l.emptied

/-- The text of lines. -/
def join (isFolded : Bool) (chomping : Chomping) : List BlockLine → List Char
  | [] => []
  | [l] => l.content ++ l.final chomping
  | a :: b :: rest => a.content ++ spacing isFolded a b ++ join isFolded chomping (b :: rest)

/-- The lines that begin at a column, and what follows them. -/
def scan (indent : Nat) : Nat → List Glyph → Except Fault (List BlockLine × List Glyph)
  | 0, text => .ok ([], text)
  | _, [] => .ok ([], [])
  | fuel + 1, g :: rest =>
    if g.column ≠ indent then .ok ([], g :: rest)
    else do
      let content := chars ((g :: rest).takeWhile (!·.isBreak))
      match (g :: rest).dropWhile (!·.isBreak) with
      | [] => return ([⟨content, [], []⟩], [])
      | e :: rest =>
        let (emptied, _, rest) ← emptyLines (some indent) 0 rest
        let (lines, rest) ← scan indent fuel rest
        return (⟨content, [e.char], emptied⟩ :: lines, rest)

end BlockLine

/-- The block behind its mark, inside a collection with a margin, and what follows it. Without a
given indentation, the deepest of the empty lines and the first line decides. -/
def blockScalar (isFolded : Bool) (margin : Nat) (text : List Glyph) :
    Except Fault (List Char × List Glyph) := do
  let (chomping, given, rest) ← blockHeader text
  let indent := given.map fun n => (margin - 1) + n
  let (breaks, most, rest) ← emptyLines indent 0 rest
  let indent := indent.getD (max (max most margin) 1)
  let (lines, rest) ← BlockLine.scan indent (rest.length + 1) rest
  let leading := if lines.isEmpty && chomping != .keep then [] else breaks
  return (leading ++ BlockLine.join isFolded chomping lines, rest)

end ApiContract.Yaml
