import ApiContract.Text.Utf8
import ApiContract.Yaml.Scalar

/-!
# Names, tags and directives

What stands in front of a node, and in front of a document.
-/

namespace ApiContract.Yaml

/-! ### Names -/

/-- A character of a name. -/
def isNameChar (c : Char) : Bool := c.isAlphanum || c == '_' || c == '-'

/-- The name at the beginning of a text, and what follows it. -/
def nameAt (text : List Glyph) : String × List Glyph :=
  (String.ofList (chars (text.takeWhile fun g => isNameChar g.char)),
    text.dropWhile fun g => isNameChar g.char)

/-- The marks that may follow the name of an anchor. -/
def nameEnds : List Char := "?:,]\x7d%@`".toList

/-- The name of an anchor at the beginning of a text, and what follows it. -/
def anchorName (text : List Glyph) : Except Fault (String × List Glyph) :=
  let (name, rest) := nameAt text
  if name.isEmpty || !(startsSpace rest || nameEnds.any (startsWith · rest)) then
    .error .invalidName
  else .ok (name, rest)

/-! ### Tags -/

/-- A tag as it is written: the handle of a directive and the rest. Without a handle the rest is the
tag itself. -/
structure Tag where
  handle : String
  suffix : String
  deriving DecidableEq, Repr

/-- A character of a tag; between angle brackets and in directives there are a few more. -/
def isUriChar (isVerbatim : Bool) (c : Char) : Bool :=
  isNameChar c || ";/?:@&=+$.%!~*'()".contains c || (isVerbatim && ",[]".contains c)

/-- The bytes of a text in which a percent sign and two digits stand for one byte. -/
def percentBytes : List Char → Option (List UInt8)
  | [] => some []
  | '%' :: a :: b :: cs => do
    let byte ← hexNumber? [a, b]
    return byte.toUInt8 :: (← percentBytes cs)
  | '%' :: _ => none
  | c :: cs => do return c.toNat.toUInt8 :: (← percentBytes cs)

/-- The part of a tag at the beginning of a text, and what follows it. -/
def uriAt (isVerbatim : Bool) (text : List Glyph) : Except Fault (String × List Glyph) :=
  let written := chars (text.takeWhile fun g => isUriChar isVerbatim g.char)
  match (percentBytes written).bind fun bytes => String.fromUTF8? ⟨bytes.toArray⟩ with
  | some uri => .ok (uri, text.dropWhile fun g => isUriChar isVerbatim g.char)
  | none => .error .invalidTag

/-- The handle behind an exclamation mark, that mark included, whether a second one closes it, and
what follows it. -/
def handleAt (text : List Glyph) : String × Bool × List Glyph :=
  let (name, rest) := nameAt text
  if startsWith '!' rest then ("!" ++ name ++ "!", true, rest.tail) else ("!" ++ name, false, rest)

/-- The tag behind an exclamation mark, and what follows it. -/
def tagAt (inFlow : Bool) (text : List Glyph) : Except Fault (Tag × List Glyph) := do
  let (tag, rest) ←
    if startsWith '<' text then
      let (uri, rest) ← uriAt true text.tail
      if uri.isEmpty || !startsWith '>' rest then throw .invalidTag
      pure (⟨"", uri⟩, rest.tail)
    else
      let (handle, isClosed, rest) := handleAt text
      if isClosed then
        let (uri, rest) ← uriAt false rest
        if uri.isEmpty then throw .invalidTag
        pure (⟨handle, uri⟩, rest)
      else
        let (uri, rest) ← uriAt false text
        pure (if uri.isEmpty then ⟨"", "!"⟩ else ⟨"!", uri⟩, rest)
  if startsSpace rest || (inFlow && startsWith ',' rest) then return (tag, rest)
  throw .invalidTag

/-! ### Directives -/

/-- A line in front of a document: the version of the format, or a handle and what it stands for. -/
inductive Directive where
  | version (major minor : Nat)
  | handle (name stem : String)
  deriving DecidableEq, Repr

/-- A number of at most nine digits at the beginning of a text, and what follows it. -/
def versionNumber (text : List Glyph) : Except Fault (Nat × List Glyph) :=
  let digits := chars (text.takeWhile fun g => g.char.isDigit)
  if digits.isEmpty || 9 < digits.length then .error .invalidDirective
  else .ok (digits.foldl (fun n c => n * 10 + (c.toNat - 48)) 0,
    text.dropWhile fun g => g.char.isDigit)

/-- The directive behind a percent sign, and what follows its line. -/
def directiveAt (text : List Glyph) : Except Fault (Directive × List Glyph) := do
  let (name, rest) := nameAt text
  unless startsSpace rest do throw .invalidDirective
  let rest := rest.dropWhile Glyph.isBlank
  let (directive, rest) ←
    if name == "YAML" then
      let (major, rest) ← versionNumber rest
      unless startsWith '.' rest do throw .invalidDirective
      let (minor, rest) ← versionNumber rest.tail
      pure (Directive.version major minor, rest)
    else if name == "TAG" then
      unless startsWith '!' rest do throw .invalidDirective
      let (handle, isClosed, rest) := handleAt rest.tail
      unless isClosed || handle == "!" do throw .invalidDirective
      unless startsSpace rest && !rest.isEmpty && !rest.head?.any Glyph.isBreak do
        throw .invalidDirective
      let (stem, rest) ← uriAt true (rest.dropWhile Glyph.isBlank)
      unless !stem.isEmpty && startsSpace rest do throw .invalidDirective
      pure (Directive.handle handle stem, rest)
    else throw .invalidDirective
  let rest := rest.dropWhile Glyph.isBlank
  let rest := if startsWith '#' rest then rest.dropWhile (!·.isBreak) else rest
  match rest with
  | [] => return (directive, [])
  | g :: rest => if g.isBreak then return (directive, rest) else throw .invalidDirective

end ApiContract.Yaml
