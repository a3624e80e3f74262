/-!
# Layout

A layout is text with gaps at which a line may end, in nested boxes. A box that fits on the rest of
the line, together with the text up to the next gap behind it, is written without a line end. In a
box that does not fit, a consistent one ends a line at every gap and an inconsistent one where the
text up to the next gap would not fit.
-/

namespace ApiContract.Code

/-- How the gaps of a box that does not fit behave. -/
inductive Style where
  | consistent
  | inconsistent
  deriving DecidableEq, Repr

/-- A place where a line may end. It is `blanks` wide when the line goes on. When the line ends
there, the next one starts at the indentation of the box and `offset`; a gap that adds a comma does
so at the end of the line. -/
structure Gap where
  blanks : Nat
  offset : Int
  addsComma : Bool
  deriving DecidableEq, Repr

/-- Text with gaps in boxes. -/
inductive Layout where
  | text (s : String)
  | gap (g : Gap)
  | box (style : Style) (indent : Int) (body : List Layout)

namespace Layout

/-- The width of a line. -/
def margin : Int := 89

/-- The width that a line has at least, however deep its indentation. -/
def leastSpace : Int := 60

/-- A width that fits on no line. -/
def unbounded : Nat := 65535

/-- The number of blanks of one level. -/
def indentation : Int := 4

/-! ### Gaps -/

/-- A gap that is a blank. -/
def space : Layout := .gap ⟨1, 0, false⟩

/-- A gap without width. -/
def zero : Layout := .gap ⟨0, 0, false⟩

/-- The end of a line. -/
def line : Layout := .gap ⟨unbounded, 0, false⟩

/-- The end of the last line of a box one level deep. -/
def lastLine : Layout := .gap ⟨unbounded, -indentation, false⟩

/-- The gap after the last of several items one level deep: a comma and the end of the line, or
`blanks` blanks. -/
def lastComma (blanks : Nat) : Layout := .gap ⟨blanks, -indentation, true⟩

/-- Items between commas, with a gap of the given width after each comma. -/
def commaList (gap : Layout) : List (List Layout) → List Layout
  | [] => []
  | [item] => item
  | item :: items => item ++ [.text ",", gap] ++ commaList gap items

/-- Items in brackets, one a line unless all fit on the line. -/
def bracketed (opening closing : String) (items : List (List Layout)) : List Layout :=
  if items.isEmpty then [.text (opening ++ closing)]
  else [.text opening,
    .box .consistent indentation ([zero] ++ commaList space items ++ [lastComma 0]),
    .text closing]

/-! ### Widths -/

mutual

/-- The width of a layout on one line. -/
def width : Layout → Nat
  | .text s => s.utf8ByteSize
  | .gap g => g.blanks
  | .box _ _ body => widths body

/-- The width of layouts on one line. -/
def widths : List Layout → Nat
  | [] => 0
  | l :: rest => width l + widths rest

end

/-- The width up to the next gap outside inner boxes, given the width that follows. -/
def ahead (follow : Nat) : List Layout → Nat
  | [] => follow
  | .gap _ :: _ => 0
  | l :: rest => width l + ahead follow rest

/-! ### Writing -/

/-- How the innermost box is written. -/
inductive Frame where
  | fits
  | broken (style : Style)
  deriving DecidableEq, Repr

/-- What has been written: the pieces from last to first, the blanks to be written before the next
text, and the space left on the line. -/
structure Canvas where
  pieces : List String
  pending : Nat
  space : Int

namespace Canvas

/-- Nothing yet. -/
def blank : Canvas := ⟨[], 0, margin⟩

/-- Writes text. -/
def write (c : Canvas) (s : String) : Canvas :=
  ⟨s :: String.ofList (List.replicate c.pending ' ') :: c.pieces, 0, c.space - s.utf8ByteSize⟩

/-- Goes on with the line. -/
def skip (c : Canvas) (blanks : Nat) : Canvas :=
  ⟨c.pieces, c.pending + blanks, c.space - blanks⟩

/-- Ends the line. -/
def newLine (c : Canvas) (indent : Int) (addsComma : Bool) : Canvas :=
  let c := if addsComma then c.write "," else c
  ⟨"\n" :: c.pieces, indent.toNat, max (margin - indent) leastSpace⟩

/-- Everything that has been written. -/
def text (c : Canvas) : String := String.join c.pieces.reverse

end Canvas

/-- Whether the line goes on at a gap, given the width up to the next one. -/
def goesOn (frame : Frame) (size : Nat) (space : Int) : Bool :=
  match frame with
  | .fits => true
  | .broken .consistent => false
  | .broken .inconsistent => decide ((size : Int) ≤ space)

mutual

/-- Writes a layout in a box, given the indentation of the box and the width that follows up to the
next gap. -/
def put (frame : Frame) (indent : Int) (follow : Nat) : Layout → Canvas → Canvas
  | .text s, c => c.write s
  | .gap g, c =>
    if goesOn frame (g.blanks + follow) c.space then c.skip g.blanks
    else c.newLine (indent + g.offset) g.addsComma
  | .box style deeper body, c =>
    if c.space < (widths body + follow : Nat) then
      putAll (.broken style) (indent + deeper) follow body c
    else putAll .fits indent follow body c

/-- Writes layouts one after another. -/
def putAll (frame : Frame) (indent : Int) (follow : Nat) : List Layout → Canvas → Canvas
  | [], c => c
  | l :: rest, c => putAll frame indent follow rest (put frame indent (ahead follow rest) l c)

end

/-- The text of layouts, in which every gap outside boxes ends a line. -/
def render (body : List Layout) : String :=
  (putAll (.broken .consistent) 0 0 body .blank).text

end Layout

end ApiContract.Code
