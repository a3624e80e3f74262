import ApiContract.Client.Request
import Mathlib.Data.List.Basic

/-!
# Encoded path segments

What a text looks like as a segment of a path. `IsSegmentText` is the form of encoded text:
unreserved characters, and percent signs with two digits in base 16. `percentDecoded` reads such
text back into bytes. An encoded text has this form and is read back into the bytes of its UTF-8
form (`isSegmentOf_percentEncoded`); so it holds no character that means something in a URL or in a
template.

Everything is first said of one byte (`percentByte_cases`), of which there are few enough to look at
each.
-/

namespace ApiContract.Client

/-! ### The form of encoded text -/

/-- A character that stands for itself in a segment. -/
def IsUnreserved (c : Char) : Prop := c.isAlphanum = true ∨ c ∈ ['-', '.', '_', '~']

instance (c : Char) : Decidable (IsUnreserved c) := inferInstanceAs (Decidable (_ ∨ _))

/-- The value of a digit in base 16. -/
def hexValue? (c : Char) : Option Nat :=
  if '0' ≤ c ∧ c ≤ '9' then some (c.toNat - '0'.toNat)
  else if 'A' ≤ c ∧ c ≤ 'F' then some (c.toNat - 'A'.toNat + 10)
  else if 'a' ≤ c ∧ c ≤ 'f' then some (c.toNat - 'a'.toNat + 10)
  else none

/-- A text of unreserved characters and of percent signs with two digits. -/
inductive IsSegmentText : List Char → Prop where
  | nil : IsSegmentText []
  | unreserved {c : Char} {cs : List Char} (hc : IsUnreserved c) (hcs : IsSegmentText cs) :
      IsSegmentText (c :: cs)
  | triplet {a b : Char} {cs : List Char} (ha : (hexValue? a).isSome = true)
      (hb : (hexValue? b).isSome = true) (hcs : IsSegmentText cs) :
      IsSegmentText ('%' :: a :: b :: cs)

/-- The bytes of a text: a percent sign with two digits is the byte of that value, and any other
character is the bytes of its UTF-8 form. -/
def percentDecoded : List Char → List UInt8
  | [] => []
  | '%' :: a :: b :: cs =>
    match hexValue? a, hexValue? b with
    | some x, some y => (16 * x + y).toUInt8 :: percentDecoded cs
    | _, _ => String.utf8EncodeChar '%' ++ percentDecoded (a :: b :: cs)
  | c :: cs => String.utf8EncodeChar c ++ percentDecoded cs

/-- The characters that end a segment or begin another part of a URL, and the braces of
templates. -/
def delimiters : List Char := ['/', '?', '#', '\x7b', '\x7d']

/-- A segment that stands for a text: it has the form of encoded text, is read back into the bytes
of the text, and holds no delimiter. -/
structure IsSegmentOf (text segment : String) : Prop where
  form : IsSegmentText segment.toList
  decoded : percentDecoded segment.toList = text.toUTF8.toList
  undelimited : ∀ c ∈ segment.toList, c ∉ delimiters

/-! ### Reading -/

lemma percentDecoded_triplet {a b : Char} {x y : Nat} (ha : hexValue? a = some x)
    (hb : hexValue? b = some y) (cs : List Char) :
    percentDecoded ('%' :: a :: b :: cs) = (16 * x + y).toUInt8 :: percentDecoded cs := by
  rw [percentDecoded, ha, hb]

lemma percentDecoded_cons {c : Char} (hc : c ≠ '%') (cs : List Char) :
    percentDecoded (c :: cs) = String.utf8EncodeChar c ++ percentDecoded cs := by
  rw [percentDecoded]
  rintro a b rest rfl
  exact absurd rfl hc

/-- A delimiter neither stands for itself in a segment nor is a digit. -/
lemma of_mem_delimiters {d : Char} (h : d ∈ delimiters) :
    ¬ IsUnreserved d ∧ (hexValue? d).isSome = false := by
  simp only [delimiters, List.mem_cons, List.not_mem_nil, or_false] at h
  rcases h with rfl | rfl | rfl | rfl | rfl <;> decide

lemma not_mem_delimiters_of_isSegmentText {cs : List Char} (h : IsSegmentText cs) :
    ∀ c ∈ cs, c ∉ delimiters := by
  have hdigit : ∀ c, (hexValue? c).isSome = true → c ∉ delimiters := fun c hc hd =>
    Bool.false_ne_true ((of_mem_delimiters hd).2.symm.trans hc)
  induction h with
  | nil => exact fun _ hc => absurd hc List.not_mem_nil
  | unreserved hc _ ih =>
    exact List.forall_mem_cons.mpr ⟨fun hd => (of_mem_delimiters hd).1 hc, ih⟩
  | triplet ha hb _ ih =>
    exact List.forall_mem_cons.mpr ⟨by decide, List.forall_mem_cons.mpr ⟨hdigit _ ha,
      List.forall_mem_cons.mpr ⟨hdigit _ hb, ih⟩⟩⟩

/-! ### One byte -/

/-- A text that is read as one byte: a character that stands for itself, or a percent sign with two
digits. -/
def readsAs (b : UInt8) : List Char → Bool
  | [c] => decide (IsUnreserved c) && c != '%' && String.utf8EncodeChar c == [b]
  | [p, c, d] =>
    match hexValue? c, hexValue? d with
    | some x, some y => p == '%' && (16 * x + y).toUInt8 == b
    | _, _ => false
  | _ => false

/-- Every byte is written so that it is read as itself. -/
lemma readsAs_percentByte (b : UInt8) : readsAs b (percentByte b) = true := by
  have hall : ((List.range 256).all fun n => readsAs n.toUInt8 (percentByte n.toUInt8)) = true := by
    decide +kernel
  have hbyte : b.toNat.toUInt8 = b := by simp
  rw [← hbyte]
  exact List.all_eq_true.mp hall b.toNat (List.mem_range.mpr b.toNat_lt)

/-- A byte is written as an unreserved character or as a percent sign with two digits. -/
lemma percentByte_cases (b : UInt8) :
    (∃ c, percentByte b = [c] ∧ IsUnreserved c ∧ c ≠ '%' ∧ String.utf8EncodeChar c = [b]) ∨
    ∃ c d x y, percentByte b = ['%', c, d] ∧ hexValue? c = some x ∧ hexValue? d = some y ∧
      (16 * x + y).toUInt8 = b := by
  have hreads := readsAs_percentByte b
  generalize percentByte b = cs at hreads
  unfold readsAs at hreads
  split at hreads
  · rename_i c
    simp only [Bool.and_eq_true, decide_eq_true_eq, bne_iff_ne, beq_iff_eq] at hreads
    exact Or.inl ⟨c, rfl, hreads.1.1, hreads.1.2, hreads.2⟩
  · rename_i p c d
    split at hreads
    · rename_i x y hx hy
      simp only [Bool.and_eq_true, beq_iff_eq] at hreads
      obtain ⟨rfl, hvalue⟩ := hreads
      exact Or.inr ⟨c, d, x, y, rfl, hx, hy, hvalue⟩
    · cases hreads
  · cases hreads

/-! ### Whole texts -/

lemma isSegmentText_flatMap_percentByte (bs : List UInt8) :
    IsSegmentText (bs.flatMap percentByte) := by
  induction bs with
  | nil => exact .nil
  | cons b rest ih =>
    rw [List.flatMap_cons]
    obtain ⟨c, hb, hc, _⟩ | ⟨c, d, x, y, hb, hx, hy, _⟩ := percentByte_cases b
    · rw [hb]
      exact .unreserved hc ih
    · rw [hb]
      exact .triplet (by rw [hx]; rfl) (by rw [hy]; rfl) ih

/-- Written bytes are read back. -/
lemma percentDecoded_flatMap_percentByte (bs : List UInt8) :
    percentDecoded (bs.flatMap percentByte) = bs := by
  induction bs with
  | nil => rfl
  | cons b rest ih =>
    rw [List.flatMap_cons]
    obtain ⟨c, hb, _, hc, hbyte⟩ | ⟨c, d, x, y, hb, hx, hy, hbyte⟩ := percentByte_cases b
    · rw [hb, List.singleton_append, percentDecoded_cons hc, hbyte, ih]
      rfl
    · rw [hb, show ['%', c, d] ++ rest.flatMap percentByte =
        '%' :: c :: d :: rest.flatMap percentByte from rfl, percentDecoded_triplet hx hy, hbyte, ih]

/-- An encoded text is a segment that stands for the text. -/
theorem isSegmentOf_percentEncoded (text : String) : IsSegmentOf text (percentEncoded text) := by
  have hchars : (percentEncoded text).toList = text.toUTF8.toList.flatMap percentByte :=
    String.toList_ofList
  have hform : IsSegmentText (percentEncoded text).toList :=
    hchars ▸ isSegmentText_flatMap_percentByte _
  refine ⟨hform, ?_, not_mem_delimiters_of_isSegmentText hform⟩
  rw [hchars, percentDecoded_flatMap_percentByte]

end ApiContract.Client
