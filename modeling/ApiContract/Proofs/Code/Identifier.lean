import ApiContract.Code.Identifier
import Mathlib.Data.List.Basic

/-!
# Texts that are identifiers

A text without blanks, slashes and marks of byte order has nothing that the reader of tokens passes
over. If such a text is read as an identifier, it is that identifier as it stands
(`Identifier.text_of_parse_eq_ok`), so different texts give different identifiers.
-/

namespace ApiContract.Code

/-! ### Characters of tokens -/

/-- A character that is never passed over: neither a blank, nor the start of a comment, nor the mark
of byte order. -/
def IsInner (c : Char) : Prop := isGap c = false ∧ c ≠ '/' ∧ c ≠ '\ufeff'

instance (c : Char) : Decidable (IsInner c) := inferInstanceAs (Decidable (_ ∧ _))

lemma isPrefixOf_slash {c : Char} (h : c ≠ '/') (p cs : List Char) :
    ('/' :: p).isPrefixOf (c :: cs) = false := by
  have hne : ('/' == c) = false := beq_eq_false_iff_ne.mpr fun he => h he.symm
  rw [List.isPrefixOf_cons_cons, hne, Bool.false_and]

/-- Before a character that is never passed over, there is nothing to pass over. -/
lemma skipGaps_of_isInner {c : Char} (h : IsInner c) (n : Nat) (cs : List Char) :
    skipGaps n (c :: cs) = c :: cs := by
  obtain ⟨hgap, hslash, _⟩ := h
  have hline : startsLineComment (c :: cs) = false := by
    rw [startsLineComment, show "//".toList = ['/', '/'] from rfl, isPrefixOf_slash hslash]
    rfl
  have hblock : startsBlockComment (c :: cs) = false := by
    rw [startsBlockComment, show "/**/".toList = ['/', '*', '*', '/'] from rfl,
      show "/*".toList = ['/', '*'] from rfl, isPrefixOf_slash hslash, isPrefixOf_slash hslash]
    rfl
  cases n with
  | zero => rfl
  | succ n => simp [skipGaps, hline, hblock, hgap]

/-! ### Words -/

lemma takeWord?_eq_some {cs rest : List Char} {name : String}
    (h : takeWord? cs = some (name, rest)) : cs = name.toList ++ rest := by
  cases cs with
  | nil => cases h
  | cons c cs =>
    rw [takeWord?] at h
    split at h
    · cases h
      simp
    · cases h

/-- A word is read from its place, or from behind `r#` if it is raw, which some words are not. -/
lemma takeIdent?_cases {cs rest : List Char} {isRaw : Bool} {name : String}
    (h : takeIdent? cs = some (.word isRaw name, rest)) :
    (isRaw = false ∧ takeWord? cs = some (name, rest)) ∨
      (isRaw = true ∧ name ∉ neverRaw ∧
        ∃ cs', cs = 'r' :: '#' :: cs' ∧ takeWord? cs' = some (name, rest)) := by
  unfold takeIdent? at h
  split at h
  · cases h
  · split at h
    · rename_i hraw
      obtain ⟨cs', rfl⟩ := List.isPrefixOf_iff_prefix.mp hraw
      split at h
      · rename_i hword
        split at h
        · cases h
        · rename_i hkeep
          cases h
          exact .inr ⟨rfl, by simpa using hkeep, cs', rfl, hword⟩
      · cases h
    · obtain ⟨found, hword, h⟩ := Option.map_eq_some_iff.mp h
      cases h
      exact .inl ⟨rfl, hword⟩

/-- A word stands in the text as its identifier does in the code. -/
lemma takeIdent?_eq_some {cs rest : List Char} {isRaw : Bool} {name : String}
    (h : takeIdent? cs = some (.word isRaw name, rest)) :
    cs = (Identifier.text ⟨isRaw, name⟩).toList ++ rest := by
  rcases takeIdent?_cases h with ⟨rfl, hword⟩ | ⟨rfl, _, cs', rfl, hword⟩
  · simpa [Identifier.text] using takeWord?_eq_some hword
  · simp [Identifier.text, takeWord?_eq_some hword]

lemma takeLiteral?_eq_some {cs rest : List Char} {t : Token}
    (h : takeLiteral? cs = some (t, rest)) : t = .literal := by
  unfold takeLiteral? at h
  split at h
  · obtain ⟨_, _, h⟩ := Option.map_eq_some_iff.mp h
    cases h
    rfl
  · cases h
    rfl
  · split at h <;> cases h
    rfl
  · split at h <;> cases h
    rfl
  · cases h

lemma takeMark?_eq_some {cs rest : List Char} {t : Token} (h : takeMark? cs = some (t, rest)) :
    ∃ c isJoined, t = .mark c isJoined := by
  unfold takeMark? at h
  split at h
  · cases h
  · split at h
    · split at h
      · split at h <;> cases h
        exact ⟨_, _, rfl⟩
      · cases h
    · cases h
      exact ⟨_, _, rfl⟩
    · cases h

/-- Only the reader of words gives words. -/
lemma takeIdent?_of_takeToken? {cs rest : List Char} {isRaw : Bool} {name : String}
    (h : takeToken? cs = some (.word isRaw name, rest)) :
    takeIdent? cs = some (.word isRaw name, rest) := by
  unfold takeToken? at h
  split at h
  · cases h
  · split at h
    · cases h
    · split at h
      · cases h
      · simp only [Option.orElse_eq_orElse, Option.orElse_eq_or, Option.or_eq_some_iff] at h
        rcases h with h | ⟨_, h | ⟨_, h⟩⟩
        · cases takeLiteral?_eq_some h
        · obtain ⟨_, _, hmark⟩ := takeMark?_eq_some h
          cases hmark
        · exact h

/-- A word that was read stands in the text. -/
lemma takeToken?_eq_some_word {cs rest : List Char} {isRaw : Bool} {name : String}
    (h : takeToken? cs = some (.word isRaw name, rest)) :
    cs = (Identifier.text ⟨isRaw, name⟩).toList ++ rest :=
  takeIdent?_eq_some (takeIdent?_of_takeToken? h)

/-- A word is a character that may start one and characters that may continue it. -/
lemma exists_cons_of_takeWord? {cs rest : List Char} {name : String}
    (h : takeWord? cs = some (name, rest)) : ∃ c tail, name.toList = c :: tail ∧
      Text.isIdentStart c = true ∧ ∀ d ∈ tail, Text.isIdentContinue d = true := by
  cases cs with
  | nil => cases h
  | cons c cs =>
    rw [takeWord?] at h
    split at h
    · rename_i hstart
      cases h
      exact ⟨c, _, String.toList_ofList, hstart, List.all_eq_true.mp List.all_takeWhile⟩
    · cases h

lemma exists_takeWord?_of_takeIdent? {cs rest : List Char} {isRaw : Bool} {name : String}
    (h : takeIdent? cs = some (.word isRaw name, rest)) :
    ∃ cs', takeWord? cs' = some (name, rest) := by
  rcases takeIdent?_cases h with ⟨_, hword⟩ | ⟨_, _, cs', _, hword⟩
  · exact ⟨cs, hword⟩
  · exact ⟨cs', hword⟩

lemma exists_takeToken?_of_tokensUpTo {n : Nat} {cs : List Char} {t : Token} {ts : List Token}
    (h : tokensUpTo n cs = some (t :: ts)) : ∃ cs' rest, takeToken? cs' = some (t, rest) := by
  cases n with
  | zero => cases h
  | succ n =>
    rw [tokensUpTo] at h
    split at h
    · cases h
    · split at h
      · rename_i htoken
        obtain ⟨_, _, h⟩ := Option.map_eq_some_iff.mp h
        cases h
        exact ⟨_, _, htoken⟩
      · cases h

/-! ### Identifiers -/

lemma tokensUpTo_eq_some_nil {n : Nat} {cs : List Char} (hcs : ∀ c ∈ cs, IsInner c)
    (h : tokensUpTo n cs = some []) : cs = [] := by
  cases n with
  | zero => cases h
  | succ n =>
    cases cs with
    | nil => rfl
    | cons c cs =>
      rw [tokensUpTo, skipGaps_of_isInner (hcs c List.mem_cons_self)] at h
      simp only at h
      split at h
      · obtain ⟨_, _, h⟩ := Option.map_eq_some_iff.mp h
        cases h
      · cases h

lemma dropOrderMark_of_isInner {cs : List Char} (hcs : ∀ c ∈ cs, IsInner c) :
    dropOrderMark cs = cs := by
  unfold dropOrderMark
  split
  · rename_i rest
    exact absurd rfl (hcs _ List.mem_cons_self).2.2
  · rfl

/-- The identifier that a word is, if it is one, is the word itself. -/
lemma Identifier.eq_of_ofToken?_word {isRaw : Bool} {name : String} {i : Identifier}
    (h : Identifier.ofToken? (.word isRaw name) = some i) : i = ⟨isRaw, name⟩ := by
  cases isRaw with
  | true => simpa [ofToken?] using h.symm
  | false =>
    rw [ofToken?] at h
    split at h <;> cases h
    rfl

lemma Identifier.parse_eq_ok_iff {s : String} {i : Identifier} :
    Identifier.parse s = .ok i ↔ Identifier.parse? s = some i := by
  unfold Identifier.parse
  cases Identifier.parse? s <;> simp

/-- The characters of an identifier may stand in one. -/
theorem Identifier.isIdentContinue_of_parse {s : String} {i : Identifier}
    (h : Identifier.parse s = .ok i) : ∀ c ∈ i.name.toList, Text.isIdentContinue c = true := by
  have hparse := Identifier.parse_eq_ok_iff.mp h
  unfold Identifier.parse? at hparse
  split at hparse
  · rename_i t htokens
    obtain ⟨cs, rest, htoken⟩ := exists_takeToken?_of_tokensUpTo htokens
    cases t with
    | word isRaw name =>
      obtain ⟨_, hword⟩ := exists_takeWord?_of_takeIdent? (takeIdent?_of_takeToken? htoken)
      obtain ⟨c, tail, hname, hc, htail⟩ := exists_cons_of_takeWord? hword
      rw [eq_of_ofToken?_word hparse, hname]
      exact List.forall_mem_cons.mpr ⟨Text.isIdentContinue_of_start hc, htail⟩
    | mark => cases hparse
    | literal => cases hparse
    | opening => cases hparse
    | closing => cases hparse
  · cases hparse

/-- An identifier is the text that it was read from, if the text has nothing to pass over. -/
theorem Identifier.text_of_parse_eq_ok {s : String} {i : Identifier}
    (hs : ∀ c ∈ s.toList, IsInner c) (h : Identifier.parse s = .ok i) : i.text = s := by
  have hparse := Identifier.parse_eq_ok_iff.mp h
  unfold Identifier.parse? at hparse
  split at hparse
  · rename_i t htokens
    unfold tokens? at htokens
    rw [dropOrderMark_of_isInner hs] at htokens
    cases hchars : s.toList with
    | nil => rw [hchars] at htokens; cases htokens
    | cons c cs =>
      rw [hchars] at htokens hs
      simp only [tokensUpTo, skipGaps_of_isInner (hs c List.mem_cons_self)] at htokens
      split at htokens
      · rename_i token rest htoken
        obtain ⟨ts, hrest, hts⟩ := Option.map_eq_some_iff.mp htokens
        cases hts
        cases t with
        -- Only a word is an identifier, and what follows it cannot be passed over.
        | word isRaw name =>
          have hsplit := takeToken?_eq_some_word htoken
          have hnil : rest = [] := by
            refine tokensUpTo_eq_some_nil (fun d hd => hs d ?_) hrest
            rw [hsplit]
            exact List.mem_append_right _ hd
          have hi : i = ⟨isRaw, name⟩ := eq_of_ofToken?_word hparse
          rw [← String.toList_inj, hchars, hsplit, hnil, hi, List.append_nil]
        | mark => cases hparse
        | literal => cases hparse
        | opening => cases hparse
        | closing => cases hparse
      · cases htokens
  · cases hparse

/-- Different texts without anything to pass over are different identifiers. -/
theorem Identifier.parse_inj {s t : String} {i : Identifier} (hs : ∀ c ∈ s.toList, IsInner c)
    (ht : ∀ c ∈ t.toList, IsInner c) (hi : Identifier.parse s = .ok i)
    (hj : Identifier.parse t = .ok i) : s = t := by
  rw [← text_of_parse_eq_ok hs hi, ← text_of_parse_eq_ok ht hj]

end ApiContract.Code
