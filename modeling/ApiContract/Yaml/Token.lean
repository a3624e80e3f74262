import ApiContract.Yaml.Tag

/-!
# Tokens of a YAML text

The columns of a text become tokens that open and close blocks. Whether a scalar is a key shows only
at the colon behind it: the place where a key may have begun is kept, and its token is put there
later. Flow collections, in brackets, have no columns.
-/

namespace ApiContract.Yaml

/-- How a scalar is written. -/
inductive Writing where
  | plain
  | quoted
  | literal
  | folded
  deriving DecidableEq, Repr

/-- A token. -/
inductive Token where
  | directive (d : Directive)
  | documentStart
  | documentEnd
  | blockSequenceStart
  | blockMappingStart
  | blockEnd
  | flowSequenceStart
  | flowSequenceEnd
  | flowMappingStart
  | flowMappingEnd
  | blockEntry
  | flowEntry
  | key
  | value
  | reference (name : String)
  | anchor (name : String)
  | tag (t : Tag)
  | scalar (text : String) (writing : Writing)
  deriving DecidableEq, Repr

/-- A place where a key may have begun: the character there, the number of tokens before it, and
whether it has to be a key. -/
structure KeyStart where
  glyph : Glyph
  number : Nat
  isRequired : Bool

/-- Whether a key may still go on at a character: keys are single lines, and not long. -/
def KeyStart.reaches (k : KeyStart) (g : Glyph) : Bool :=
  g.line ≤ k.glyph.line && g.index ≤ k.glyph.index + 1024

/-- A text on the way to its tokens: what is left of it, the tokens so far, the columns of the open
blocks with the innermost first, the place of a possible key inside and outside each bracket that is
open, and whether a key may begin. -/
structure Scan where
  rest : List Glyph
  tokens : Array Token
  columns : List Nat
  keyStart : Option KeyStart
  outerKeys : List (Option KeyStart)
  allowsKey : Bool

namespace Scan

/-- The beginning of a text. -/
def start (text : List Glyph) : Scan := ⟨text, #[], [], none, [], true⟩

/-- Whether a bracket is open. -/
def inFlow (s : Scan) : Bool := !s.outerKeys.isEmpty

/-- The first column that belongs to the innermost block. -/
def margin (s : Scan) : Nat :=
  match s.columns with
  | [] => 0
  | column :: _ => column + 1

/-- Adds a token, and goes on behind it. -/
def emit (s : Scan) (t : Token) (rest : List Glyph) : Scan :=
  { s with tokens := s.tokens.push t, rest }

/-! ### Blocks -/

/-- Opens a block at a column that is deeper than those of the open ones, its token after a number
of others. -/
def openBlock (s : Scan) (column number : Nat) (t : Token) : Scan :=
  if s.inFlow || column < s.margin then s
  else { s with columns := column :: s.columns, tokens := s.tokens.insertIdxIfInBounds number t }

/-- Closes blocks, the innermost first. -/
def closeBlocks (s : Scan) (isDeep : Nat → Bool) : Scan :=
  if s.inFlow then s
  else
    { s with
      columns := s.columns.dropWhile isDeep
      tokens := (s.columns.takeWhile isDeep).foldl (fun ts _ => ts.push .blockEnd) s.tokens }

/-- Closes the blocks that are deeper than a column. -/
def closeTo (s : Scan) (column : Nat) : Scan := s.closeBlocks (column < ·)

/-- Closes all blocks. -/
def closeAll (s : Scan) : Scan := s.closeBlocks fun _ => true

/-! ### Keys -/

/-- Forgets the place of a possible key, which is no key. -/
def dropKey (s : Scan) : Except Fault Scan :=
  if s.keyStart.any KeyStart.isRequired then .error .missingColon
  else .ok { s with keyStart := none }

/-- Keeps a place where a key may begin. It has to be a key if it is where those of the block are.
-/
def saveKey (s : Scan) (g : Glyph) : Except Fault Scan :=
  if !s.allowsKey then .ok s
  else do
    let s ← s.dropKey
    let isRequired := !s.inFlow && s.columns.head? == some g.column
    return { s with keyStart := some ⟨g, s.tokens.size, isRequired⟩ }

/-- Forgets the place of a possible key that ends before a character. -/
def refresh (g : Glyph) : Option KeyStart → Except Fault (Option KeyStart)
  | none => .ok none
  | some k =>
    if k.reaches g then .ok (some k)
    else if k.isRequired then .error .missingColon
    else .ok none

/-- Forgets the places of all possible keys that end before a character. -/
def refreshKeys (s : Scan) (g : Glyph) : Except Fault Scan := do
  return { s with
    keyStart := (← refresh g s.keyStart), outerKeys := (← s.outerKeys.mapM (refresh g)) }

/-! ### Spaces -/

/-- The mark that may stand in front of a text. -/
def byteOrderMark : Char := '\ufeff'

/-- What follows the spaces and comments at the beginning of a text, and whether a key may begin
there. Outside of brackets it may on every new line; a tab cannot stand before it. -/
def skipSpaces (inFlow inComment allowsKey : Bool) : List Glyph → Bool × List Glyph
  | [] => (allowsKey, [])
  | g :: rest =>
    if g.isBreak then skipSpaces inFlow false (allowsKey || !inFlow) rest
    else if inComment || (g.char == byteOrderMark && g.column == 0) || g.char == ' ' ||
        (g.char == '\t' && (inFlow || !allowsKey)) then
      skipSpaces inFlow inComment allowsKey rest
    else if g.char == '#' then skipSpaces inFlow true allowsKey rest
    else (allowsKey, g :: rest)

/-- Goes on behind spaces and comments. -/
def afterSpaces (s : Scan) : Scan :=
  let (allowsKey, rest) := skipSpaces s.inFlow false s.allowsKey s.rest
  { s with allowsKey, rest }

/-! ### Tokens -/

/-- Adds the token of a whole line, outside of all blocks. -/
def line (s : Scan) (t : Token) (rest : List Glyph) : Except Fault Scan := do
  let s ← s.closeAll.dropKey
  return { s.emit t rest with allowsKey := false }

/-- Opens a bracket. -/
def openFlow (s : Scan) (g : Glyph) (t : Token) (rest : List Glyph) : Except Fault Scan := do
  let s ← s.saveKey g
  return { s.emit t rest with
    outerKeys := s.keyStart :: s.outerKeys, keyStart := none, allowsKey := true }

/-- Closes a bracket. -/
def closeFlow (s : Scan) (t : Token) (rest : List Glyph) : Except Fault Scan := do
  let s ← s.dropKey
  let s := { s.emit t rest with allowsKey := false }
  match s.outerKeys with
  | [] => return s
  | k :: outer => return { s with keyStart := k, outerKeys := outer }

/-- Goes on to the next item of a flow collection. -/
def flowEntry (s : Scan) (rest : List Glyph) : Except Fault Scan := do
  let s ← s.dropKey
  return { s.emit .flowEntry rest with allowsKey := true }

/-- Begins an item of a block. -/
def blockEntry (s : Scan) (g : Glyph) (rest : List Glyph) : Except Fault Scan := do
  unless s.inFlow || s.allowsKey do throw .strayEntry
  let s ← (s.openBlock g.column s.tokens.size .blockSequenceStart).dropKey
  return { s.emit .blockEntry rest with allowsKey := true }

/-- Begins a key that is marked. -/
def markedKey (s : Scan) (g : Glyph) (rest : List Glyph) : Except Fault Scan := do
  unless s.inFlow || s.allowsKey do throw .strayKey
  let s ← (s.openBlock g.column s.tokens.size .blockMappingStart).dropKey
  return { s.emit .key rest with allowsKey := !s.inFlow }

/-- Begins a value. What stands at the place of a possible key is now one. -/
def value (s : Scan) (g : Glyph) (rest : List Glyph) : Except Fault Scan := do
  match s.keyStart with
  | some k =>
    let s := { s with
      keyStart := none, allowsKey := false, tokens := s.tokens.insertIdxIfInBounds k.number .key }
    return (s.openBlock k.glyph.column k.number .blockMappingStart).emit .value rest
  | none =>
    unless s.inFlow || s.allowsKey do throw .strayValue
    let s := s.openBlock g.column s.tokens.size .blockMappingStart
    return { s.emit .value rest with allowsKey := !s.inFlow }

/-- Adds a token that may be the beginning of a key. -/
def part (s : Scan) (g : Glyph) (read : Except Fault (Token × List Glyph)) :
    Except Fault Scan := do
  let s ← s.saveKey g
  let (t, rest) ← read
  return { s.emit t rest with allowsKey := false }

/-- Adds a block scalar. -/
def block (s : Scan) (isFolded : Bool) (rest : List Glyph) : Except Fault Scan := do
  let s ← s.dropKey
  let (text, rest) ← blockScalar isFolded s.margin rest
  let t := Token.scalar (String.ofList text) (if isFolded then .folded else .literal)
  return { s.emit t rest with allowsKey := true }

/-- Adds a quoted scalar. -/
def quoted (s : Scan) (g : Glyph) (rest : List Glyph) : Except Fault Scan :=
  s.part g do
    let (text, rest) ← quotedScalar g.char rest
    return (.scalar (String.ofList text) .quoted, rest)

/-- Adds a plain scalar. A key may begin behind it if it ends with its line. -/
def plain (s : Scan) (g : Glyph) : Except Fault Scan := do
  let s ← s.saveKey g
  let (text, isEnded, rest) ← plainScalar s.inFlow s.margin s.rest
  return { s.emit (.scalar (String.ofList text) .plain) rest with allowsKey := isEnded }

/-- The marks that cannot begin a plain scalar. -/
def marks : List Char := "-?:,[]\x7b\x7d#&*!|>'\"%@`".toList

/-- Whether a plain scalar begins with a character in front of a text. -/
def beginsPlain (inFlow : Bool) (g : Glyph) (rest : List Glyph) : Bool :=
  !(g.isSpace || marks.contains g.char) ||
    (g.char == '-' && !rest.head?.any Glyph.isBlank) ||
    (!inFlow && (g.char == '?' || g.char == ':') && !startsSpace rest)

/-- Adds the token that begins with a character in front of a text. -/
def step (s : Scan) (g : Glyph) (rest : List Glyph) : Except Fault Scan :=
  let isAlone := startsSpace rest
  if g.column == 0 && g.char == '%' then do
    let (d, rest) ← directiveAt rest
    s.line (.directive d) rest
  else if startsMarkerOf '-' (g :: rest) then s.line .documentStart (rest.drop 2)
  else if startsMarkerOf '.' (g :: rest) then s.line .documentEnd (rest.drop 2)
  else if g.char == '[' then s.openFlow g .flowSequenceStart rest
  else if g.char == '\x7b' then s.openFlow g .flowMappingStart rest
  else if g.char == ']' then s.closeFlow .flowSequenceEnd rest
  else if g.char == '\x7d' then s.closeFlow .flowMappingEnd rest
  else if g.char == ',' then s.flowEntry rest
  else if g.char == '-' && isAlone then s.blockEntry g rest
  else if g.char == '?' && (s.inFlow || isAlone) then s.markedKey g rest
  else if g.char == ':' && (s.inFlow || isAlone) then s.value g rest
  else if g.char == '*' then s.part g do
    let (name, rest) ← anchorName rest
    return (.reference name, rest)
  else if g.char == '&' then s.part g do
    let (name, rest) ← anchorName rest
    return (.anchor name, rest)
  else if g.char == '!' then s.part g do
    let (tag, rest) ← tagAt s.inFlow rest
    return (.tag tag, rest)
  else if g.char == '|' && !s.inFlow then s.block false rest
  else if g.char == '>' && !s.inFlow then s.block true rest
  else if g.char == '\'' || g.char == '"' then s.quoted g rest
  else if beginsPlain s.inFlow g rest then s.plain g
  else .error .strayCharacter

/-- The tokens of a text. Every step takes at least one character away. -/
def run : Nat → Scan → Except Fault (List Token)
  | 0, s => .ok s.tokens.toList
  | fuel + 1, s => do
    let s := s.afterSpaces
    match s.rest with
    | [] => return (← s.closeAll.dropKey).tokens.toList
    | g :: rest => run fuel (← ((← s.refreshKeys g).closeTo g.column).step g rest)

end Scan

/-- The tokens of a text. -/
def Token.ofText (text : String) : Except Fault (List Token) := do
  let glyphs ← Glyph.ofText text
  Scan.run (glyphs.length + 1) (Scan.start glyphs)

end ApiContract.Yaml
