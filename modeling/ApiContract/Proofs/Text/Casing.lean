import ApiContract.Text.Casing
import Mathlib.Data.List.Forall2

/-!
# Words of names in other casings

The words of a name hold letters and numbers only, and no letter or number becomes a character that
separates tokens or words when its case changes. So the casings of a name hold no blank, no slash
and no mark of byte order, and the words can be read back from `snake` (`snake_eq_snake_iff`). No
character becomes a small letter in uppercase, so a type name starts with none
(`not_small_of_head?_camel`).

Which characters a case mapping can give is a fact about its tables; it is checked once for all
entries of a table (`checkLowerShifts`, `checkUpperShifts`).
-/

namespace ApiContract.Text

/-! ### Separators -/

/-- The code points that end a word of the generated code or begin a comment, the mark of byte
order, the number sign of raw identifiers, and the underscore between the words of a name. -/
def separators : List Nat := [
  0x9, 0xA, 0xB, 0xC, 0xD, 0x20, 0x23, 0x2F, 0x5F, 0x85, 0xA0, 0x1680, 0x2000, 0x2001, 0x2002,
  0x2003, 0x2004, 0x2005, 0x2006, 0x2007, 0x2008, 0x2009, 0x200A, 0x200E, 0x200F, 0x2028, 0x2029,
  0x202F, 0x205F, 0x3000, 0xFEFF]

/-- A character that stands between words. -/
def IsSeparator (c : Char) : Prop := c.toNat ∈ separators

instance (c : Char) : Decidable (IsSeparator c) := inferInstanceAs (Decidable (_ ∈ _))

/-- A blank stands between words. -/
lemma isSeparator_of_isBlank {c : Char} (h : isBlank c = true) : IsSeparator c := by
  simp only [isBlank, Bool.or_eq_true, Bool.and_eq_true, decide_eq_true_eq, beq_iff_eq] at h
  have hmem : ∀ n ∈ separators, c.toNat = n → IsSeparator c := fun n hn hc => by
    rwa [IsSeparator, hc]
  have hrange : ∀ low high, (∀ i ≤ high - low, low + i ∈ separators) →
      low ≤ c.toNat ∧ c.toNat ≤ high → IsSeparator c := by
    intro low high hall hc
    refine hmem (low + (c.toNat - low)) (hall _ (by omega)) (by omega)
  rcases h with (((((((((h | h) | h) | h) | h) | h) | h) | h) | h) | h) | h
  · exact hrange 9 13 (by decide) h
  · exact hmem _ (by decide) h
  · exact hmem _ (by decide) h
  · exact hmem _ (by decide) h
  · exact hmem _ (by decide) h
  · exact hrange 0x2000 0x200A (by decide) h
  · exact hmem _ (by decide) h
  · exact hmem _ (by decide) h
  · exact hmem _ (by decide) h
  · exact hmem _ (by decide) h
  · exact hmem _ (by decide) h

/-- No range of a table of letters and numbers has a separator. -/
lemma inRanges_separators : ∀ n ∈ separators,
    inRanges startRanges n = false ∧ inRanges innerRanges n = false ∧
      inRanges numeralRanges n = false := by
  decide +kernel

/-- A letter or number is no separator. -/
lemma not_isSeparator_of_isWordChar {c : Char} (h : isWordChar c = true) : ¬ IsSeparator c := by
  intro hc
  obtain ⟨hstart, hinner, hnumeral⟩ := inRanges_separators c.toNat hc
  have halpha : c.isAlphanum = true := by
    simpa [isWordChar, hstart, hinner, hnumeral] using h
  have hnone : ∀ n ∈ separators, (Char.ofNat n).isAlphanum = false := by decide +kernel
  have hchar := hnone c.toNat hc
  rw [Char.ofNat_toNat, halpha] at hchar
  cases hchar

lemma not_isSeparator_of_all {cs : List Char} (h : cs.all isWordChar = true) :
    ∀ c ∈ cs, ¬ IsSeparator c :=
  fun c hc => not_isSeparator_of_isWordChar (List.all_eq_true.mp h c hc)

/-! ### Case mappings -/

/-- Whether none of the characters of a progression is moved to one of the given code points. -/
def movesApart (codes : List Nat) (e : Nat × Nat × Nat × Int) : Bool :=
  let low := (e.1 + e.2.2.2).toNat
  let high := (e.2.1 + e.2.2.2).toNat
  codes.all fun m => Nat.blt m low || Nat.blt high m

/-- Whether a sequence has a character and none of the given code points. -/
def isApart (codes : List Nat) (e : Nat × List Nat) : Bool :=
  !e.2.isEmpty && e.2.all fun code => !codes.contains code

lemma checkLowerShifts : toLowerShifts.all (movesApart separators) = true := by decide +kernel

lemma checkUpperShifts : toUpperShifts.all (movesApart separators) = true := by decide +kernel

/-- A code point is moved by the shift of a progression that holds it. -/
lemma shifted_eq_some {table : List (Nat × Nat × Nat × Int)} {n code : Nat}
    (h : shifted table n = some code) :
    ∃ e ∈ table, e.1 ≤ n ∧ n ≤ e.2.1 ∧ code = (n + e.2.2.2).toNat := by
  induction table with
  | nil => cases h
  | cons e rest ih =>
    obtain ⟨first, last, step, shift⟩ := e
    rw [shifted] at h
    split at h
    · cases h
    · rename_i hfirst
      split at h
      · rename_i hlast
        cases h
        rw [Bool.and_eq_true, decide_eq_true_eq] at hlast
        exact ⟨_, List.mem_cons_self, Nat.le_of_not_lt hfirst, hlast.1, rfl⟩
      · obtain ⟨e, hmem, he⟩ := ih h
        exact ⟨e, List.mem_cons_of_mem _ hmem, he⟩

/-- A code point that is none of the given ones does not become one as a character. -/
lemma toNat_ofNat_not_mem {codes : List Nat} (hzero : 0 ∉ codes) {code : Nat} (h : code ∉ codes) :
    (Char.ofNat code).toNat ∉ codes := by
  unfold Char.ofNat
  by_cases hvalid : code.isValidChar
  · rw [dif_pos hvalid]
    exact h
  · rw [dif_neg hvalid]
    exact hzero

/-- A case mapping gives at least one character, and none of the given ones for what is none. -/
lemma mapCase_apart {codes : List Nat} {shifts : List (Nat × Nat × Nat × Int)}
    {sequences : List (Nat × List Nat)} (hzero : 0 ∉ codes)
    (hshifts : shifts.all (movesApart codes) = true)
    (hsequences : sequences.all (isApart codes) = true) {c : Char} (hc : c.toNat ∉ codes) :
    mapCase shifts sequences c ≠ [] ∧ ∀ d ∈ mapCase shifts sequences c, d.toNat ∉ codes := by
  unfold mapCase
  split
  · rename_i mapped hlookup
    have hmem : (c.toNat, mapped) ∈ sequences := by
      obtain ⟨before, after, hsplit, _⟩ := List.lookup_eq_some_iff.mp hlookup
      rw [hsplit]
      simp
    have happart := List.all_eq_true.mp hsequences _ hmem
    rw [isApart, Bool.and_eq_true, List.all_eq_true] at happart
    refine ⟨by simpa using happart.1, fun d hd => ?_⟩
    obtain ⟨code, hcode, rfl⟩ := List.mem_map.mp hd
    exact toNat_ofNat_not_mem hzero (by simpa using happart.2 code hcode)
  · split
    · rename_i code hcode
      obtain ⟨e, hmem, hfirst, hlast, rfl⟩ := shifted_eq_some hcode
      have hmoves := List.all_eq_true.mp (List.all_eq_true.mp hshifts e hmem)
      refine ⟨List.cons_ne_nil _ _, fun d hd => ?_⟩
      rw [List.mem_singleton.mp hd]
      refine toNat_ofNat_not_mem hzero fun hbad => ?_
      have hrange := hmoves _ hbad
      rw [Bool.or_eq_true, Nat.blt_eq, Nat.blt_eq] at hrange
      omega
    · exact ⟨List.cons_ne_nil _ _, fun d hd => by rwa [List.mem_singleton.mp hd]⟩

/-- A change of case, decided by itself on ASCII and by tables beyond it, keeps apart from the
separators when both parts do. -/
lemma caseMap_apart {ascii : Char → Char} {shifts : List (Nat × Nat × Nat × Int)}
    {sequences : List (Nat × List Nat)}
    (hascii : ∀ n < 128, ¬ IsSeparator (Char.ofNat n) → ¬ IsSeparator (ascii (Char.ofNat n)))
    (hshifts : shifts.all (movesApart separators) = true)
    (hsequences : sequences.all (isApart separators) = true) {c : Char} (hc : ¬ IsSeparator c) :
    (if c.toNat < 128 then [ascii c] else mapCase shifts sequences c) ≠ [] ∧
      ∀ d ∈ (if c.toNat < 128 then [ascii c] else mapCase shifts sequences c),
        ¬ IsSeparator d := by
  split
  · rename_i hsmall
    have hchar := hascii c.toNat hsmall
    rw [Char.ofNat_toNat] at hchar
    refine ⟨List.cons_ne_nil _ _, fun d hd => ?_⟩
    rw [List.mem_singleton.mp hd]
    exact hchar hc
  · exact mapCase_apart (by decide) hshifts hsequences hc

lemma lower_apart {c : Char} (hc : ¬ IsSeparator c) :
    lower c ≠ [] ∧ ∀ d ∈ lower c, ¬ IsSeparator d :=
  caseMap_apart (by decide +kernel) checkLowerShifts (by decide +kernel) hc

lemma upper_apart {c : Char} (hc : ¬ IsSeparator c) :
    upper c ≠ [] ∧ ∀ d ∈ upper c, ¬ IsSeparator d :=
  caseMap_apart (by decide +kernel) checkUpperShifts (by decide +kernel) hc

/-- The small letters of ASCII. -/
def smallLetters : List Nat := (List.range 26).map ('a'.toNat + ·)

/-- No character becomes a small letter of ASCII in uppercase. -/
lemma upper_not_small (c : Char) : ∀ d ∈ upper c, d.toNat ∉ smallLetters := by
  unfold upper
  split
  · rename_i hsmall
    have hall : ∀ n < 128, (Char.ofNat n).toUpper.toNat ∉ smallLetters := by decide +kernel
    have hchar := hall c.toNat hsmall
    rw [Char.ofNat_toNat] at hchar
    intro d hd
    rwa [List.mem_singleton.mp hd]
  · rename_i hlarge
    have hc : c.toNat ∉ smallLetters := fun hmem =>
      hlarge ((show ∀ n ∈ smallLetters, n < 128 by decide) _ hmem)
    exact (mapCase_apart (by decide) (by decide +kernel) (by decide +kernel) hc).2

/-! ### Words -/

lemma splitByAux_all {p : Char → Bool} {piece cs : List Char} (hpiece : ∀ c ∈ piece, p c = false) :
    ∀ w ∈ splitByAux p piece cs, ∀ c ∈ w, p c = false := by
  -- The piece so far holds none of the class, since only such characters are added to it.
  induction cs generalizing piece with
  | nil =>
    intro w hw c hc
    rw [splitByAux, List.mem_singleton] at hw
    exact hpiece c (List.mem_reverse.mp (hw ▸ hc))
  | cons c cs ih =>
    rw [splitByAux]
    split
    · intro w hw d hd
      rcases List.mem_cons.mp hw with rfl | hw
      · exact hpiece d (List.mem_reverse.mp hd)
      · exact ih (fun _ h => absurd h List.not_mem_nil) w hw d hd
    · rename_i hp
      refine ih fun d hd => ?_
      rcases List.mem_cons.mp hd with rfl | hd
      · simpa using hp
      · exact hpiece d hd

/-- The words of a piece are not empty: whenever a capital ends a word, the word has a letter. -/
lemma ne_nil_of_mem_caseWordsAux {word : List Char} {run : Run} {cs : List Char}
    (hrun : run ≠ .none → word ≠ []) : ∀ w ∈ caseWordsAux word run cs, w ≠ [] := by
  fun_induction caseWordsAux word run cs with
  | case1 => simp
  | case2 => simp
  | case3 word run c next rest _ ih =>
    intro w hw
    rcases List.mem_cons.mp hw with rfl | hw
    · simp
    · exact ih (by simp) w hw
  | case4 word run c next rest _ hsplit ih =>
    have hupper : run = .upper := by
      simp only [Bool.and_eq_true, beq_iff_eq] at hsplit
      exact hsplit.1.1
    intro w hw
    rcases List.mem_cons.mp hw with rfl | hw
    · simpa using hrun (by simp [hupper])
    · exact ih (by simp) w hw
  | case5 word run c next rest _ _ ih => exact ih fun _ => List.cons_ne_nil _ _

/-- Every word of a name has a character, and letters and numbers only. -/
theorem nameWords_spec {s : String} {w : List Char} (h : w ∈ nameWords s) :
    w ≠ [] ∧ ∀ c ∈ w, isWordChar c = true := by
  obtain ⟨piece, hpiece, hw⟩ := List.mem_flatMap.mp h
  refine ⟨ne_nil_of_mem_caseWordsAux (by simp) w hw, fun c hc => ?_⟩
  have hmem : c ∈ piece := by
    rw [← flatten_caseWords piece]
    exact List.mem_flatten.mpr ⟨w, hw, hc⟩
  simpa using splitByAux_all (fun _ hd => absurd hd List.not_mem_nil) piece hpiece c hmem

lemma not_isSeparator_of_mem_nameWords {s : String} {w : List Char} (h : w ∈ nameWords s) :
    ∀ c ∈ w, ¬ IsSeparator c := fun c hc =>
  not_isSeparator_of_isWordChar ((nameWords_spec h).2 c hc)

lemma lowerWord_apart {w : List Char} (h : ∀ c ∈ w, ¬ IsSeparator c) :
    ∀ d ∈ lowerWord w, ¬ IsSeparator d := by
  fun_induction lowerWord w with
  | case1 => simp
  | case2 =>
    intro d hd
    rw [List.mem_singleton.mp hd]
    decide
  | case3 c cs _ ih =>
    intro d hd
    rcases List.mem_append.mp hd with hd | hd
    · exact (lower_apart (h c List.mem_cons_self)).2 d hd
    · exact ih (fun e he => h e (List.mem_cons_of_mem _ he)) d hd

lemma lowerWord_ne_nil {w : List Char} (hne : w ≠ []) (h : ∀ c ∈ w, ¬ IsSeparator c) :
    lowerWord w ≠ [] := by
  fun_induction lowerWord w with
  | case1 => exact absurd rfl hne
  | case2 => exact List.cons_ne_nil _ _
  | case3 c cs _ _ =>
    exact List.append_ne_nil_of_left_ne_nil (lower_apart (h c List.mem_cons_self)).1 _

lemma capitalWord_apart {w : List Char} (h : ∀ c ∈ w, ¬ IsSeparator c) :
    ∀ d ∈ capitalWord w, ¬ IsSeparator d := by
  cases w with
  | nil => simp [capitalWord]
  | cons c cs =>
    intro d hd
    rcases List.mem_append.mp hd with hd | hd
    · exact (upper_apart (h c List.mem_cons_self)).2 d hd
    · exact lowerWord_apart (fun e he => h e (List.mem_cons_of_mem _ he)) d hd

lemma upperWord_apart {w : List Char} (h : ∀ c ∈ w, ¬ IsSeparator c) :
    ∀ d ∈ upperWord w, ¬ IsSeparator d := by
  intro d hd
  obtain ⟨c, hc, hd⟩ := List.mem_flatMap.mp hd
  exact (upper_apart (h c hc)).2 d hd

/-! ### Casings -/

/-- The words of a name in lowercase. -/
def lowerWords (s : String) : List (List Char) := (nameWords s).map lowerWord

lemma toList_snake (s : String) : (snake s).toList = ['_'].intercalate (lowerWords s) := by
  rw [snake, String.toList_intercalate, List.map_map, lowerWords]
  simp [Function.comp_def]

lemma toList_camel (s : String) :
    (camel s).toList = ((nameWords s).map capitalWord).flatten := by
  rw [camel, String.toList_join, List.flatMap_map]
  simp [List.flatMap]

/-- The name of a type holds no separator. -/
theorem not_isSeparator_of_mem_camel {s : String} : ∀ c ∈ (camel s).toList, ¬ IsSeparator c := by
  intro c hc
  rw [toList_camel] at hc
  obtain ⟨w, hw, hcw⟩ := List.mem_flatten.mp hc
  obtain ⟨word, hword, rfl⟩ := List.mem_map.mp hw
  exact capitalWord_apart (not_isSeparator_of_mem_nameWords hword) c hcw

/-- The name of a type does not start with a small letter of ASCII. -/
theorem not_small_of_head?_camel {s : String} {c : Char} (h : (camel s).toList.head? = some c) :
    c.toNat ∉ smallLetters := by
  rw [toList_camel] at h
  cases hwords : nameWords s with
  | nil =>
    rw [hwords] at h
    cases h
  | cons w rest =>
    have hw : w ∈ nameWords s := by simp [hwords]
    obtain ⟨first, others, rfl⟩ := List.exists_cons_of_ne_nil (nameWords_spec hw).1
    have hfirst : upper first ≠ [] :=
      (upper_apart (not_isSeparator_of_mem_nameWords hw first List.mem_cons_self)).1
    obtain ⟨d, more, hupper⟩ := List.exists_cons_of_ne_nil hfirst
    rw [hwords, List.map_cons, List.flatten_cons, capitalWord, hupper] at h
    obtain rfl : d = c := Option.some.inj h
    refine upper_not_small first d ?_
    rw [hupper]
    exact List.mem_cons_self

lemma lowerWords_spec {s : String} {w : List Char} (h : w ∈ lowerWords s) :
    w ≠ [] ∧ ∀ c ∈ w, ¬ IsSeparator c := by
  obtain ⟨word, hword, rfl⟩ := List.mem_map.mp h
  have hsep := not_isSeparator_of_mem_nameWords hword
  exact ⟨lowerWord_ne_nil (nameWords_spec hword).1 hsep, lowerWord_apart hsep⟩

lemma mem_intercalate {x c : Char} {ws : List (List Char)} (h : c ∈ [x].intercalate ws) :
    c = x ∨ ∃ w ∈ ws, c ∈ w := by
  induction ws with
  | nil => simp at h
  | cons w rest ih =>
    cases rest with
    | nil => exact Or.inr ⟨w, List.mem_cons_self, by simpa using h⟩
    | cons v rest =>
      rw [List.intercalate_cons_cons, List.mem_append, List.mem_append, List.mem_singleton] at h
      rcases h with (h | h) | h
      · exact Or.inr ⟨w, List.mem_cons_self, h⟩
      · exact Or.inl h
      · rcases ih h with h | ⟨u, hu, hc⟩
        · exact Or.inl h
        · exact Or.inr ⟨u, List.mem_cons_of_mem _ hu, hc⟩

/-- The name of a module or function holds no separator but the underscore. -/
theorem not_isSeparator_of_mem_snake {s : String} {c : Char} (h : c ∈ (snake s).toList) :
    c = '_' ∨ ¬ IsSeparator c := by
  rw [toList_snake] at h
  rcases mem_intercalate h with h | ⟨w, hw, hc⟩
  · exact Or.inl h
  · exact Or.inr ((lowerWords_spec hw).2 c hc)

lemma toList_shouty (s : String) :
    (shouty s).toList = ['_'].intercalate ((nameWords s).map upperWord) := by
  rw [shouty, String.toList_intercalate, List.map_map]
  simp [Function.comp_def]

/-- The name of a constant holds no separator but the underscore. -/
theorem not_isSeparator_of_mem_shouty {s : String} {c : Char} (h : c ∈ (shouty s).toList) :
    c = '_' ∨ ¬ IsSeparator c := by
  rw [toList_shouty] at h
  rcases mem_intercalate h with h | ⟨w, hw, hc⟩
  · exact Or.inl h
  · obtain ⟨word, hword, rfl⟩ := List.mem_map.mp hw
    exact Or.inr (upperWord_apart (not_isSeparator_of_mem_nameWords hword) c hc)

/-- Words that hold no underscore can be read back from where underscores join them. -/
lemma intercalate_inj {vs ws : List (List Char)} (hvs : ∀ w ∈ vs, w ≠ [] ∧ '_' ∉ w)
    (hws : ∀ w ∈ ws, w ≠ [] ∧ '_' ∉ w) (h : ['_'].intercalate vs = ['_'].intercalate ws) :
    vs = ws := by
  have hnil : ∀ us : List (List Char), (∀ w ∈ us, w ≠ [] ∧ '_' ∉ w) →
      ['_'].intercalate us = [] → us = [] := by
    intro us hus hempty
    cases us with
    | nil => rfl
    | cons w rest =>
      have hw : w = [] := by
        cases rest with
        | nil => simpa using hempty
        | cons v rest => simp at hempty
      exact absurd hw (hus w List.mem_cons_self).1
  by_cases hv : vs = []
  · subst hv
    exact (hnil ws hws h.symm).symm
  · by_cases hw : ws = []
    · subst hw
      exact hnil vs hvs h
    -- Splitting at the underscore reads back lists that are not empty.
    · rw [← List.splitOn_intercalate '_' (fun w hw => (hvs w hw).2) hv, h,
        List.splitOn_intercalate '_' (fun w hw => (hws w hw).2) hw]

/-- Two names have the same name of a function exactly when their words are the same in
lowercase. -/
theorem snake_eq_snake_iff (s t : String) : snake s = snake t ↔ lowerWords s = lowerWords t := by
  have hunderscore : ∀ u : String, ∀ w ∈ lowerWords u, w ≠ [] ∧ '_' ∉ w := by
    intro u w hw
    obtain ⟨hne, hsep⟩ := lowerWords_spec hw
    exact ⟨hne, fun hc => hsep '_' hc (by decide)⟩
  rw [← String.toList_inj, toList_snake, toList_snake]
  exact ⟨intercalate_inj (hunderscore s) (hunderscore t), fun h => by rw [h]⟩

end ApiContract.Text
