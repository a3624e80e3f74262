import ApiContract.Proofs.Code.Gaps

/-!
# Which texts are read as identifiers

A text is read as an identifier exactly if it is one with gaps around it
(`Identifier.parses_padded`): an identifier is read from its own text, and also from texts that are
not identifiers themselves. Whether a word is an identifier does not refer to the reader
(`Identifier.IsValid`).
-/

namespace ApiContract.Code

open ApiContract.Text

namespace Identifier

/-- A word that may be an identifier: its first character may start one, the others may continue
one, and it is not reserved; after `r#` other words are reserved. -/
structure IsValid (i : Identifier) : Prop where
  isWord : ∃ c cs, i.name.toList = c :: cs ∧ isIdentStart c = true ∧
    ∀ d ∈ cs, isIdentContinue d = true
  notReserved : i.name ∉ if i.isRaw then neverRaw else reservedWords

/-- A text is a word with gaps around it, after a mark of byte order if it starts with one. -/
def IsPadded (word s : String) : Prop :=
  ∃ rest, Gaps (dropOrderMark s.toList) (word.toList ++ rest) ∧ Gaps rest []

end Identifier

lemma ne_of_isIdentStart {c d : Char} (hc : isIdentStart c = true) (hd : isIdentStart d = false) :
    c ≠ d := by
  rintro rfl
  rw [hd] at hc
  cases hc

/-! ### Reading words -/

section Words

variable {rest : List Char} (hrest : ∀ c ∈ rest.head?, IsWordEnd c)
include hrest

lemma dropWhile_word {word : List Char} (hword : ∀ c ∈ word, isIdentContinue c = true) :
    (word ++ rest).dropWhile isIdentContinue = rest := by
  rw [List.dropWhile_append_of_pos hword]
  cases rest with
  | nil => rfl
  | cons c rest => rw [List.dropWhile_cons_of_neg (Bool.eq_false_iff.mp (hrest c rfl).1)]

lemma takeWord?_append {name : String} {c : Char} {cs : List Char} (hname : name.toList = c :: cs)
    (hc : isIdentStart c = true) (hcs : ∀ d ∈ cs, isIdentContinue d = true) :
    takeWord? (name.toList ++ rest) = some (name, rest) := by
  have hdrop := dropWhile_word hrest hcs
  have htake : (cs ++ rest).takeWhile isIdentContinue = cs := by
    have hsplit := List.takeWhile_append_dropWhile (p := isIdentContinue) (l := cs ++ rest)
    rw [hdrop] at hsplit
    exact List.append_cancel_right hsplit
  rw [hname, List.cons_append, takeWord?, if_pos hc, htake, hdrop, ← hname, String.ofList_toList]

/-- A text whose first word goes on with a quote or a number sign does not start with a word that
ends otherwise. -/
lemma isPrefixOf_word {p word : List Char} (hword : ∀ c ∈ word, isIdentContinue c = true)
    (hp : ∃ c ∈ (p.dropWhile isIdentContinue).head?, ¬ IsWordEnd c) :
    p.isPrefixOf (word ++ rest) = false := by
  rw [Bool.eq_false_iff, ne_eq, List.isPrefixOf_iff_prefix]
  rintro ⟨tail, htail⟩
  obtain ⟨c, hc, hquote⟩ := hp
  obtain ⟨after, hafter⟩ := List.head?_eq_some_iff.mp hc
  have hdrop := dropWhile_word hrest hword
  rw [← htail, List.dropWhile_append, hafter] at hdrop
  exact hquote (hrest c (by rw [← hdrop]; rfl))

/-- A word that is not raw is read as it stands: nothing that follows it makes a literal of it. -/
lemma takeIdent?_plain {name : String} (hname : ∀ c ∈ name.toList, isIdentContinue c = true)
    (hword : takeWord? (name.toList ++ rest) = some (name, rest)) :
    takeIdent? (name.toList ++ rest) = some (.word false name, rest) := by
  have hall : (("r#" :: literalStarts).all fun p =>
      (p.toList.dropWhile isIdentContinue).head?.any fun c => !decide (IsWordEnd c)) = true := by
    decide +kernel
  have hends : ∀ p ∈ "r#" :: literalStarts,
      ∃ c ∈ (p.toList.dropWhile isIdentContinue).head?, ¬ IsWordEnd c := fun p hp => by
    simpa using Option.any_eq_true _ _ |>.mp (List.all_eq_true.mp hall p hp)
  have hliteral : (literalStarts.any fun p => p.toList.isPrefixOf (name.toList ++ rest)) = false :=
    List.any_eq_false.mpr fun p hp =>
      Bool.eq_false_iff.mp (isPrefixOf_word hrest hname (hends p (List.mem_cons_of_mem _ hp)))
  have hraw : "r#".toList.isPrefixOf (name.toList ++ rest) = false :=
    isPrefixOf_word hrest hname (hends "r#" List.mem_cons_self)
  rw [takeIdent?, hliteral, if_neg Bool.false_ne_true, hraw, if_neg Bool.false_ne_true, hword]
  rfl

end Words

/-- Behind `r#`, only another number sign or a quote makes a literal. -/
lemma isPrefixOf_raw {c : Char} (hc : isIdentStart c = true) (cs : List Char) :
    (literalStarts.any fun p => p.toList.isPrefixOf ('r' :: '#' :: c :: cs)) = false := by
  have hquote : '"' ≠ c := (ne_of_isIdentStart hc (by decide +kernel)).symm
  have hsign : '#' ≠ c := (ne_of_isIdentStart hc (by decide +kernel)).symm
  have hstarts : literalStarts.map String.toList = [['r', '"'], ['r', '#', '"'], ['r', '#', '#'],
      ['b', '"'], ['b', '\''], ['b', 'r', '"'], ['b', 'r', '#'], ['c', '"'], ['c', 'r', '"'],
      ['c', 'r', '#']] := rfl
  have hany : (literalStarts.any fun p => p.toList.isPrefixOf ('r' :: '#' :: c :: cs)) =
      (literalStarts.map String.toList).any (List.isPrefixOf · ('r' :: '#' :: c :: cs)) := by
    rw [List.any_map]
    rfl
  rw [hany, hstarts]
  simp [List.isPrefixOf, hquote, hsign]

lemma takeIdent?_raw {name : String} {c : Char} {cs rest : List Char}
    (hname : name.toList = c :: cs) (hc : isIdentStart c = true) (hkeep : name ∉ neverRaw)
    (hword : takeWord? (name.toList ++ rest) = some (name, rest)) :
    takeIdent? ('r' :: '#' :: (name.toList ++ rest)) = some (.word true name, rest) := by
  have hliteral := isPrefixOf_raw hc (cs ++ rest)
  rw [← List.cons_append, ← hname] at hliteral
  have hraw : "r#".toList.isPrefixOf ('r' :: '#' :: (name.toList ++ rest)) = true := rfl
  rw [takeIdent?, hliteral, if_neg Bool.false_ne_true, if_pos hraw]
  simp [hword, hkeep]

/-! ### Reading tokens -/

/-- The characters that start another token than a word. -/
def tokenStarts : List Char :=
  "([\x7b".toList ++ (")]\x7d".toList ++ ("\"0123456789".toList ++ marks))

/-- No word starts as another token does. -/
lemma not_mem_tokenStarts {c : Char} (hc : isIdentStart c = true) : c ∉ tokenStarts := by
  have hnone : (tokenStarts.all fun d => !isIdentStart d) = true := by decide +kernel
  exact fun h => ne_of_isIdentStart hc (by simpa using List.all_eq_true.mp hnone c h) rfl

lemma mem_tokenStarts_of_isDigit {c : Char} (h : c.isDigit = true) : c ∈ tokenStarts := by
  have hdigits : ∀ n < 10, Char.ofNat (48 + n) ∈ tokenStarts := by decide
  have hrange : 48 ≤ c.toNat ∧ c.toNat ≤ 57 := by
    simpa [Char.isDigit, UInt32.le_iff_toNat_le] using h
  have hc : c = Char.ofNat (48 + (c.toNat - 48)) := by
    rw [Nat.add_sub_cancel' hrange.1, Char.ofNat_toNat]
  rw [hc]
  exact hdigits _ (by omega)

lemma takeLiteral?_eq_none {c : Char} (hc : c ∉ tokenStarts) (cs : List Char) :
    takeLiteral? (c :: cs) = none := by
  have hdigit : c.isDigit = false := Bool.eq_false_iff.mpr (mt mem_tokenStarts_of_isDigit hc)
  unfold takeLiteral?
  split
  · rename_i hcons
    cases hcons
    exact absurd (by decide) hc
  · rename_i hcons
    cases hcons
    exact absurd (by decide) hc
  · rename_i hcons
    cases hcons
    exact absurd (by decide) hc
  · rename_i hcons
    cases hcons
    rw [hdigit, if_neg Bool.false_ne_true]
  · rfl

lemma takeMark?_eq_none {c : Char} (hc : c ∉ tokenStarts) (cs : List Char) :
    takeMark? (c :: cs) = none := by
  have hmark : marks.contains c = false := by
    rw [List.contains_eq_mem, decide_eq_false_iff_not]
    exact fun h => hc (by simp only [tokenStarts, List.mem_append, h, or_true])
  have hstart : startsMark (c :: cs) = false := by
    rw [startsMark, hmark, Bool.and_false]
  unfold takeMark?
  rw [hstart]
  rfl

/-- Where a word starts, the reader of tokens reads a word. -/
lemma takeToken?_of_isIdentStart {c : Char} (hc : isIdentStart c = true) (cs : List Char) :
    takeToken? (c :: cs) = takeIdent? (c :: cs) := by
  have hnone := not_mem_tokenStarts hc
  have hopening : "([\x7b".toList.contains c = false := by
    rw [List.contains_eq_mem, decide_eq_false_iff_not]
    exact fun h => hnone (List.mem_append_left _ h)
  have hclosing : ")]\x7d".toList.contains c = false := by
    rw [List.contains_eq_mem, decide_eq_false_iff_not]
    exact fun h => hnone (List.mem_append_right _ (List.mem_append_left _ h))
  rw [takeToken?, hopening, hclosing, takeLiteral?_eq_none hnone, takeMark?_eq_none hnone]
  rfl

/-- A character that may start a word is not passed over. -/
lemma isInner_of_isIdentStart {c : Char} (h : isIdentStart c = true) : IsInner c := by
  have hcontinue := isIdentContinue_of_start h
  refine ⟨Bool.eq_false_iff.mpr fun hgap => ?_, ne_of_isIdentStart h (by decide +kernel),
    ne_of_isIdentStart h (by decide +kernel)⟩
  rw [(isWordEnd_of_isGap hgap).1] at hcontinue
  cases hcontinue

/-- A text has one token if there are only gaps around it. -/
lemma tokensUpTo_eq_singleton {n : Nat} {cs : List Char} {t : Token} :
    tokensUpTo (n + 1) cs = some [t] ↔ ∃ rest,
      takeToken? (skipGaps (cs.length + 1) cs) = some (t, rest) ∧ tokensUpTo n rest = some [] := by
  rw [tokensUpTo]
  split
  · rename_i hskip
    simp [hskip, takeToken?]
  · rename_i c rest hskip
    rw [hskip]
    cases htoken : takeToken? (c :: rest) with
    | none => simp
    | some found =>
      simp only [Option.map_eq_some_iff, List.cons.injEq, Option.some.injEq]
      constructor
      · rintro ⟨_, hts, rfl, rfl⟩
        exact ⟨found.2, rfl, hts⟩
      · rintro ⟨_, rfl, hts⟩
        exact ⟨[], hts, rfl, rfl⟩

/-- A text has no token if there is only a gap. -/
lemma tokensUpTo_eq_nil {n : Nat} {cs : List Char} :
    tokensUpTo (n + 1) cs = some [] ↔ skipGaps (cs.length + 1) cs = [] := by
  rw [tokensUpTo]
  split
  · rename_i hskip
    simp [hskip]
  · rename_i hskip
    rw [hskip]
    split
    · simp
    · simp

namespace Identifier

variable {i : Identifier}

/-- The text of an identifier starts with a character that may start a word. -/
lemma IsValid.exists_text (hi : i.IsValid) :
    ∃ c cs, i.text.toList = c :: cs ∧ isIdentStart c = true := by
  obtain ⟨c, cs, hname, hc, _⟩ := hi.isWord
  obtain ⟨isRaw, name⟩ := i
  cases isRaw with
  | true => exact ⟨'r', '#' :: name.toList, by simp [text], by decide⟩
  | false => exact ⟨c, cs, hname, hc⟩

/-- A word that may be an identifier is read back from its text. -/
lemma IsValid.takeToken? (hi : i.IsValid) {rest : List Char}
    (hrest : ∀ c ∈ rest.head?, IsWordEnd c) :
    Code.takeToken? (i.text.toList ++ rest) = some (.word i.isRaw i.name, rest) := by
  obtain ⟨first, tail, htext, hfirst⟩ := hi.exists_text
  have htoken : Code.takeToken? (i.text.toList ++ rest) = takeIdent? (i.text.toList ++ rest) := by
    rw [htext]
    exact takeToken?_of_isIdentStart hfirst _
  rw [htoken]
  obtain ⟨c, cs, hname, hc, hcs⟩ := hi.isWord
  have hword := takeWord?_append hrest hname hc hcs
  obtain ⟨isRaw, name⟩ := i
  cases isRaw with
  | true =>
    have hchars : (text ⟨true, name⟩).toList ++ rest = 'r' :: '#' :: (name.toList ++ rest) := by
      simp [text]
    rw [hchars]
    exact takeIdent?_raw hname hc hi.notReserved hword
  | false =>
    have hchars : ∀ d ∈ name.toList, isIdentContinue d = true := by
      rw [show name.toList = c :: cs from hname]
      exact List.forall_mem_cons.mpr ⟨isIdentContinue_of_start hc, hcs⟩
    exact takeIdent?_plain hrest hchars hword

lemma IsValid.ofToken? (hi : i.IsValid) : Identifier.ofToken? (.word i.isRaw i.name) = some i := by
  obtain ⟨isRaw, name⟩ := i
  cases isRaw with
  | true => rfl
  | false =>
    have hfree : name ∉ reservedWords := hi.notReserved
    simp [Identifier.ofToken?, hfree]

/-- A word that was read is an identifier if it is not reserved. -/
lemma isValid_of_ofToken? {isRaw : Bool} {name : String} {cs rest : List Char}
    (htoken : takeIdent? cs = some (.word isRaw name, rest))
    (h : Identifier.ofToken? (.word isRaw name) = some i) : i.IsValid := by
  rw [eq_of_ofToken?_word h]
  rcases takeIdent?_cases htoken with ⟨rfl, hword⟩ | ⟨rfl, hkeep, _, _, hword⟩
  · refine ⟨exists_cons_of_takeWord? hword, ?_⟩
    rw [Identifier.ofToken?] at h
    split at h
    · cases h
    · rename_i hfree
      simpa using hfree
  · exact ⟨exists_cons_of_takeWord? hword, hkeep⟩

/-- The text of an identifier is read with the gaps around it, and nothing else is. -/
theorem parse_eq_ok_iff_isPadded {s : String} :
    parse s = .ok i ↔ i.IsValid ∧ IsPadded i.text s := by
  rw [parse_eq_ok_iff, parse?, tokens?, IsPadded]
  generalize dropOrderMark s.toList = cs
  constructor
  · intro h
    split at h
    · rename_i t htokens
      obtain ⟨rest, htoken, hend⟩ := tokensUpTo_eq_singleton.mp htokens
      cases t with
      | word isRaw name =>
        have hi := eq_of_ofToken?_word h
        have hgaps := gaps_skipGaps (cs.length + 1) cs
        rw [takeToken?_eq_some_word htoken, ← hi] at hgaps
        refine ⟨isValid_of_ofToken? (takeIdent?_of_takeToken? htoken) h, rest, hgaps, ?_⟩
        cases hn : cs.length with
        | zero => rw [hn] at hend; cases hend
        | succ n =>
          rw [hn] at hend
          have hrest := gaps_skipGaps (rest.length + 1) rest
          rwa [tokensUpTo_eq_nil.mp hend] at hrest
      | mark => cases h
      | literal => cases h
      | opening => cases h
      | closing => cases h
    · cases h
  · rintro ⟨hi, rest, hgaps, hend⟩
    obtain ⟨c, tail, htext, hc⟩ := hi.exists_text
    have hskip : skipGaps (cs.length + 1) cs = i.text.toList ++ rest := by
      refine skipGaps_eq hgaps (Nat.lt_succ_self _) fun d hd => ?_
      rw [htext, List.cons_append] at hd
      cases hd
      exact isInner_of_isIdentStart hc
    have hlength : cs.length ≠ 0 := by
      have := hgaps.length_le
      rw [htext, List.length_append, List.length_cons] at this
      omega
    obtain ⟨n, hn⟩ := Nat.exists_eq_succ_of_ne_zero hlength
    have htokens : tokensUpTo (cs.length + 1) cs = some [.word i.isRaw i.name] := by
      refine tokensUpTo_eq_singleton.mpr ⟨rest, ?_, ?_⟩
      · rw [hskip]
        exact hi.takeToken? hend.isWordEnd
      · rw [hn]
        exact tokensUpTo_eq_nil.mpr (skipGaps_eq hend (Nat.lt_succ_self _) (by simp))
    simp only [htokens]
    exact hi.ofToken?

/-- The text of an identifier has nothing around it. -/
lemma IsValid.isPadded_text (hi : i.IsValid) : IsPadded i.text i.text := by
  obtain ⟨c, tail, htext, hc⟩ := hi.exists_text
  have hmark : dropOrderMark i.text.toList = i.text.toList := by
    rw [htext]
    unfold dropOrderMark
    split
    · rename_i hcons
      cases hcons
      exact absurd rfl (isInner_of_isIdentStart hc).2.2
    · rfl
  exact ⟨[], by rw [hmark, List.append_nil]; exact .none _, .none []⟩

/-- A text is read as an identifier exactly if it is one with gaps around it. In particular, an
identifier is read from its own text. -/
theorem parses_padded (s : String) (i : Identifier) :
    (parse s = .ok i ↔ i.IsValid ∧ IsPadded i.text s) ∧ (parse i.text = .ok i ↔ i.IsValid) :=
  ⟨parse_eq_ok_iff_isPadded, fun h => (parse_eq_ok_iff_isPadded.mp h).1,
    fun hi => parse_eq_ok_iff_isPadded.mpr ⟨hi, hi.isPadded_text⟩⟩

/-- A text with a blank in front is no identifier, but is read as the one behind the blank. -/
theorem parse_spacedItem :
    parse " item" = .ok (.plain "item") ∧ parse "item" = .ok (.plain "item") ∧
      ¬ ∃ i : Identifier, i.IsValid ∧ i.text = " item" := by
  refine ⟨parse_eq_ok_iff.mpr (by decide +kernel), parse_eq_ok_iff.mpr (by decide +kernel), ?_⟩
  rintro ⟨i, hi, htext⟩
  obtain ⟨c, cs, hchars, hc⟩ := hi.exists_text
  rw [htext] at hchars
  cases hchars
  revert hc
  decide

end Identifier

end ApiContract.Code
