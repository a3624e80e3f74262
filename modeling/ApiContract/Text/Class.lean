import ApiContract.Text.IdentifierTable
import ApiContract.Text.CaseTable
import ApiContract.Text.HiddenTable

/-!
# Classes of characters

Blanks, the characters of words and identifiers, letter case, and the characters that do not show.
Each class is decided on ASCII by itself and by a table beyond it.
-/

namespace ApiContract.Text

/-! ### Blanks -/

/-- The characters that count as white space. -/
def isBlank (c : Char) : Bool :=
  let n := c.toNat
  (9 ≤ n && n ≤ 13) || n == 0x20 || n == 0x85 || n == 0xA0 || n == 0x1680 ||
    (0x2000 ≤ n && n ≤ 0x200A) || n == 0x2028 || n == 0x2029 || n == 0x202F || n == 0x205F ||
    n == 0x3000

/-- `cs` without the characters of a class at either end. -/
def trimBy (p : Char → Bool) (cs : List Char) : List Char :=
  ((cs.dropWhile p).reverse.dropWhile p).reverse

/-- A text without the blanks at either end. -/
def trim (s : String) : String :=
  String.ofList (trimBy isBlank s.toList)

/-- The pieces of `cs` between the characters of a class, the first piece being `piece` reversed
and continued. -/
def splitByAux (p : Char → Bool) (piece : List Char) : List Char → List (List Char)
  | [] => [piece.reverse]
  | c :: cs => if p c then piece.reverse :: splitByAux p [] cs else splitByAux p (c :: piece) cs

/-- The pieces of `cs` between the characters of a class; `n` such characters give `n + 1` pieces.
-/
def splitBy (p : Char → Bool) (cs : List Char) : List (List Char) :=
  splitByAux p [] cs

/-- The longest pieces of a text that hold no blank. -/
def words (s : String) : List String :=
  ((splitBy isBlank s.toList).filter (· ≠ [])).map String.ofList

/-! ### Case -/

/-- A lowercase letter. -/
def isLower (c : Char) : Bool :=
  ('a' ≤ c && c ≤ 'z') || inProgressions lowercaseProgressions c.toNat

/-- An uppercase letter. -/
def isUpper (c : Char) : Bool :=
  ('A' ≤ c && c ≤ 'Z') || inProgressions uppercaseProgressions c.toNat

/-- The shift of a code point by the first progression that holds it. -/
def shifted : List (Nat × Nat × Nat × Int) → Nat → Option Nat
  | [], _ => none
  | (first, last, step, shift) :: rest, n =>
    if n < first then none
    else if n ≤ last && (n - first) % step == 0 then some (n + shift).toNat
    else shifted rest n

/-- The image of a character beyond ASCII under a case mapping given by its two tables. -/
def mapCase (shifts : List (Nat × Nat × Nat × Int)) (sequences : List (Nat × List Nat))
    (c : Char) : List Char :=
  match sequences.lookup c.toNat with
  | some codes => codes.map Char.ofNat
  | none =>
    match shifted shifts c.toNat with
    | some code => [Char.ofNat code]
    | none => [c]

/-- The uppercase form of a character, which may have several characters. -/
def upper (c : Char) : List Char :=
  if c.toNat < 128 then [c.toUpper] else mapCase toUpperShifts toUpperSequences c

/-- The lowercase form of a character, which may have several characters. -/
def lower (c : Char) : List Char :=
  if c.toNat < 128 then [c.toLower] else mapCase toLowerShifts toLowerSequences c

/-- A text with its ASCII letters in lowercase. -/
def asciiLower (s : String) : String :=
  String.ofList (s.toList.map Char.toLower)

/-! ### Words and identifiers -/

/-- A letter or number. -/
def isWordChar (c : Char) : Bool :=
  c.isAlphanum ||
    (let n := c.toNat
     (inRanges startRanges n && n != 0x2118 && n != 0x212E) ||
       inRanges innerRanges n || inRanges numeralRanges n)

/-- A character that may start an identifier. -/
def isIdentStart (c : Char) : Bool :=
  c.isAlpha || c == '_' || inRanges startRanges c.toNat

/-- A character that may continue an identifier. -/
def isIdentContinue (c : Char) : Bool :=
  c.isAlphanum || c == '_' ||
    (let n := c.toNat
     inRanges startRanges n || inRanges innerRanges n || inRanges joiningRanges n)

/-- What may start an identifier may continue one. -/
theorem isIdentContinue_of_start {c : Char} (h : isIdentStart c = true) :
    isIdentContinue c = true := by
  simp only [isIdentStart, isIdentContinue, Char.isAlphanum, Bool.or_eq_true] at h ⊢
  rcases h with (h | h) | h
  · exact Or.inl (Or.inl (Or.inl h))
  · exact Or.inl (Or.inr h)
  · exact Or.inr (Or.inl (Or.inl h))

/-! ### Hidden characters -/

/-- A character that does not show by itself: a control, a separator other than the space, a format
character, a mark, or an unassigned code point. -/
def isHidden (c : Char) : Bool :=
  c.toNat < 0x20 || c.toNat == 0x7F || inRanges hiddenRanges c.toNat

end ApiContract.Text
