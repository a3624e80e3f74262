import ApiContract.Proofs.Code.Identifier
import ApiContract.Proofs.Text.Casing

/-!
# Between tokens

What stands between tokens is described without reading it: blanks, comments up to the end of a
line, and block comments, which nest (`Gaps`). A comment that is documentation is none of them. The
reader of tokens passes over gaps and over nothing else (`gaps_skipGaps`), and stops where a token
starts or the text ends (`skipGaps_eq`).
-/

namespace ApiContract.Code

/-! ### Comments -/

/-- `Closes depth cs rest`: inside of `depth` nested comments, `cs` ends all of them, and `rest`
comes after that. -/
inductive Closes : Nat → List Char → List Char → Prop
  | done (rest : List Char) : Closes 0 rest rest
  | leave {depth : Nat} {cs rest : List Char} :
    Closes depth cs rest → Closes (depth + 1) ('*' :: '/' :: cs) rest
  | enter {depth : Nat} {cs rest : List Char} :
    Closes (depth + 2) cs rest → Closes (depth + 1) ('/' :: '*' :: cs) rest
  | skip {depth : Nat} {c : Char} {cs rest : List Char} (hleave : ¬ ['*', '/'] <+: c :: cs)
    (henter : ¬ ['/', '*'] <+: c :: cs) :
    Closes (depth + 1) cs rest → Closes (depth + 1) (c :: cs) rest

/-- A comment up to the end of the line is documentation if `!` or exactly one more slash starts
its text. -/
def IsLineDoc (text : List Char) : Prop :=
  ['!'] <+: text ∨ ['/'] <+: text ∧ ¬ ['/', '/'] <+: text

/-- A block comment is documentation if `!` or exactly one more star starts its text, which goes on
after that star. -/
def IsBlockDoc (text : List Char) : Prop :=
  ['!'] <+: text ∨ ['*'] <+: text ∧ ¬ ['*', '*'] <+: text ∧ ¬ ['*', '/'] <+: text

/-- `Gaps cs rest`: `cs` is blanks and comments that are no documentation, and `rest` after them. -/
inductive Gaps : List Char → List Char → Prop
  | none (rest : List Char) : Gaps rest rest
  | blank {c : Char} {cs rest : List Char} (hc : isGap c = true) :
    Gaps cs rest → Gaps (c :: cs) rest
  | line {text cs rest : List Char} (hline : '\n' ∉ text) (hend : cs = [] ∨ ['\n'] <+: cs)
    (hdoc : ¬ IsLineDoc text) : Gaps cs rest → Gaps ('/' :: '/' :: (text ++ cs)) rest
  | block {cs after rest : List Char} (hdoc : ¬ IsBlockDoc cs) (hclose : Closes 1 cs after) :
    Gaps after rest → Gaps ('/' :: '*' :: cs) rest

lemma Closes.length_le {depth : Nat} {cs rest : List Char} (h : Closes depth cs rest) :
    rest.length ≤ cs.length := by
  induction h with
  | done rest => exact Nat.le_refl _
  | leave _ ih => simp only [List.length_cons]; omega
  | enter _ ih => simp only [List.length_cons]; omega
  | skip _ _ _ ih => simp only [List.length_cons]; omega

lemma Closes.of_afterBlock {depth : Nat} {cs rest : List Char} (hdepth : 1 ≤ depth)
    (h : afterBlock depth cs = some rest) : Closes depth cs rest := by
  fun_induction afterBlock depth cs with
  | case1 => cases h
  | case2 depth cs ih =>
    obtain ⟨depth, rfl⟩ := Nat.exists_eq_add_of_le' hdepth
    exact .enter (ih (by omega) h)
  | case3 depth cs hlast =>
    cases h
    obtain rfl : depth = 1 := by omega
    exact .leave (.done _)
  | case4 depth cs hinner ih =>
    obtain ⟨depth, rfl⟩ := Nat.exists_eq_add_of_le' hdepth
    exact .leave (ih (by omega) h)
  | case5 depth c cs henter hleave ih =>
    obtain ⟨depth, rfl⟩ := Nat.exists_eq_add_of_le' hdepth
    refine .skip ?_ ?_ (ih (by omega) h)
    · rintro ⟨tail, htail⟩
      cases htail
      exact hleave _ rfl rfl
    · rintro ⟨tail, htail⟩
      cases htail
      exact henter _ rfl rfl

lemma Closes.afterBlock_eq {depth : Nat} {cs rest : List Char} (h : Closes depth cs rest)
    (hdepth : 1 ≤ depth) : afterBlock depth cs = some rest := by
  induction h with
  | done => cases hdepth
  | @leave depth cs rest h ih =>
    cases depth with
    | zero => cases h; rfl
    | succ depth => simpa [afterBlock] using ih (by omega)
  | enter _ ih => simpa [afterBlock] using ih (by omega)
  | @skip depth c cs rest hleave henter _ ih =>
    rw [afterBlock]
    · exact ih hdepth
    · rintro tail rfl rfl
      exact henter ⟨tail, rfl⟩
    · rintro tail rfl rfl
      exact hleave ⟨tail, rfl⟩

/-- The reader finds the end of a block comment exactly where its nesting ends. -/
theorem afterBlock_eq_some_iff {cs rest : List Char} :
    afterBlock 0 ('/' :: '*' :: cs) = some rest ↔ Closes 1 cs rest :=
  ⟨Closes.of_afterBlock (Nat.le_refl 1), fun h => h.afterBlock_eq (Nat.le_refl 1)⟩

/-! ### Starts of comments -/

lemma startsLineComment_iff {cs : List Char} :
    startsLineComment cs = true ↔ ∃ text, cs = '/' :: '/' :: text ∧ ¬ IsLineDoc text := by
  have hmarks : startsLineComment cs = true ↔
      (['/', '/'] <+: cs ∧ (¬ ['/', '/', '/'] <+: cs ∨ ['/', '/', '/', '/'] <+: cs)) ∧
        ¬ ['/', '/', '!'] <+: cs := by
    simp only [startsLineComment, Bool.and_eq_true, Bool.or_eq_true, Bool.not_eq_true',
      Bool.eq_false_iff, ne_eq, List.isPrefixOf_iff_prefix]
    rfl
  rw [hmarks]
  constructor
  · rintro ⟨⟨⟨text, rfl⟩, hslash⟩, hmark⟩
    simp only [List.cons_append, List.nil_append, List.cons_prefix_cons, true_and] at hslash hmark
    exact ⟨text, rfl, fun hdoc => hdoc.elim hmark fun h => hslash.elim (· h.1) h.2⟩
  · rintro ⟨text, rfl, hdoc⟩
    simp only [List.cons_prefix_cons, true_and, List.nil_prefix]
    exact ⟨or_iff_not_imp_left.mpr fun h => by_contra fun h' => hdoc (.inr ⟨not_not.mp h, h'⟩),
      fun h => hdoc (.inl h)⟩

lemma startsBlockComment_iff {cs : List Char} :
    startsBlockComment cs = true ↔ ∃ text, cs = '/' :: '*' :: text ∧ ¬ IsBlockDoc text := by
  have hmarks : startsBlockComment cs = true ↔
      ['/', '*', '*', '/'] <+: cs ∨
        (['/', '*'] <+: cs ∧ (¬ ['/', '*', '*'] <+: cs ∨ ['/', '*', '*', '*'] <+: cs)) ∧
          ¬ ['/', '*', '!'] <+: cs := by
    simp only [startsBlockComment, Bool.and_eq_true, Bool.or_eq_true, Bool.not_eq_true',
      Bool.eq_false_iff, ne_eq, List.isPrefixOf_iff_prefix]
    rfl
  rw [hmarks]
  constructor
  · rintro (⟨text, rfl⟩ | ⟨⟨⟨text, rfl⟩, hstar⟩, hmark⟩)
    · exact ⟨'*' :: '/' :: text, rfl, by simp [IsBlockDoc, List.cons_prefix_cons]⟩
    · simp only [List.cons_append, List.nil_append, List.cons_prefix_cons, true_and] at hstar hmark
      exact ⟨text, rfl, fun hdoc => hdoc.elim hmark fun h => hstar.elim (· h.1) h.2.1⟩
  · rintro ⟨text, rfl, hdoc⟩
    simp only [List.cons_prefix_cons, true_and, List.nil_prefix]
    by_cases hempty : ['*', '/'] <+: text
    · exact .inl hempty
    · refine .inr ⟨or_iff_not_imp_left.mpr fun h => by_contra fun h' => hdoc (.inr ?_),
        fun h => hdoc (.inl h)⟩
      exact ⟨not_not.mp h, h', hempty⟩

/-- Whether the comment at the end of a line is documentation is decided within its line. -/
lemma isLineDoc_append {text cs : List Char} (hend : cs = [] ∨ ['\n'] <+: cs) :
    IsLineDoc (text ++ cs) ↔ IsLineDoc text := by
  obtain rfl | ⟨tail, rfl⟩ := hend
  · rw [List.append_nil]
  · match text with
    | [] => simp [IsLineDoc, List.cons_prefix_cons]
    | [c] => simp [IsLineDoc, List.cons_prefix_cons]
    | _ :: _ :: _ => simp [IsLineDoc, List.cons_prefix_cons]

/-! ### Passing over gaps -/

/-- A text is its first line and what starts with the end of that line. -/
lemma exists_line (cs : List Char) : ∃ line, line ++ cs.dropWhile (· ≠ '\n') = cs ∧ '\n' ∉ line ∧
    (cs.dropWhile (· ≠ '\n') = [] ∨ ['\n'] <+: cs.dropWhile (· ≠ '\n')) := by
  refine ⟨cs.takeWhile (· ≠ '\n'), List.takeWhile_append_dropWhile, fun h => ?_, ?_⟩
  · simpa using List.all_eq_true.mp List.all_takeWhile _ h
  · cases htail : cs.dropWhile (· ≠ '\n') with
    | nil => exact .inl rfl
    | cons c tail =>
      have hc := List.head?_dropWhile_not (· ≠ '\n') cs
      rw [htail] at hc
      obtain rfl : c = '\n' := by simpa using hc
      exact .inr ⟨tail, rfl⟩

lemma dropWhile_ne_newline {line cs : List Char} (hline : '\n' ∉ line)
    (hend : cs = [] ∨ ['\n'] <+: cs) : (line ++ cs).dropWhile (· ≠ '\n') = cs := by
  rw [List.dropWhile_append_of_pos]
  · obtain rfl | ⟨tail, rfl⟩ := hend
    · rfl
    · rfl
  · intro c hc
    simpa using ne_of_mem_of_not_mem hc hline

/-- Whatever the reader passes over is a gap. -/
theorem gaps_skipGaps (n : Nat) (cs : List Char) : Gaps cs (skipGaps n cs) := by
  fun_induction skipGaps n cs with
  | case1 cs => exact .none cs
  | case2 => exact .none []
  | case3 n c cs hline ih =>
    obtain ⟨text, htext, hdoc⟩ := startsLineComment_iff.mp hline
    cases htext
    obtain ⟨line, hsplit, hnewline, hend⟩ := exists_line text
    have hdrop : ('/' :: text).dropWhile (· ≠ '\n') = text.dropWhile (· ≠ '\n') := rfl
    rw [hdrop] at ih ⊢
    rw [← hsplit, isLineDoc_append hend] at hdoc
    have hgaps := Gaps.line hnewline hend hdoc ih
    rwa [hsplit] at hgaps
  | case4 n c cs hline hblock rest hrest ih =>
    obtain ⟨text, htext, hdoc⟩ := startsBlockComment_iff.mp hblock
    cases htext
    exact .block hdoc (afterBlock_eq_some_iff.mp hrest) ih
  | case5 => exact .none _
  | case6 n c cs hline hblock hgap ih => exact .blank hgap ih
  | case7 => exact .none _

/-- Where no further gap can start, the reader stops: it passes over all gaps before. -/
theorem skipGaps_eq {n : Nat} {cs rest : List Char} (h : Gaps cs rest) (hn : cs.length < n)
    (hrest : ∀ c ∈ rest.head?, IsInner c) : skipGaps n cs = rest := by
  induction h generalizing n with
  | none rest =>
    cases rest with
    | nil => cases n <;> rfl
    | cons c rest => exact skipGaps_of_isInner (hrest c rfl) n rest
  | @blank c cs rest hc _ ih =>
    obtain ⟨n, rfl⟩ := Nat.exists_eq_add_of_le' (Nat.one_le_of_lt hn)
    have hslash : c ≠ '/' := by
      rintro rfl
      revert hc
      decide
    have hline : startsLineComment (c :: cs) = false := Bool.eq_false_iff.mpr fun h => by
      obtain ⟨text, htext, _⟩ := startsLineComment_iff.mp h
      exact hslash (List.cons.inj htext).1
    have hblock : startsBlockComment (c :: cs) = false := Bool.eq_false_iff.mpr fun h => by
      obtain ⟨text, htext, _⟩ := startsBlockComment_iff.mp h
      exact hslash (List.cons.inj htext).1
    rw [List.length_cons] at hn
    simp only [skipGaps, hline, hblock, hc, if_true, Bool.false_eq_true, if_false]
    exact ih (by omega) hrest
  | @line text cs rest hline hend hdoc _ ih =>
    obtain ⟨n, rfl⟩ := Nat.exists_eq_add_of_le' (Nat.one_le_of_lt hn)
    have hstart : startsLineComment ('/' :: '/' :: (text ++ cs)) = true :=
      startsLineComment_iff.mpr ⟨_, rfl, mt (isLineDoc_append hend).mp hdoc⟩
    have hdrop : ('/' :: (text ++ cs)).dropWhile (· ≠ '\n') = cs :=
      dropWhile_ne_newline hline hend
    simp only [List.length_cons, List.length_append] at hn
    rw [skipGaps, if_pos hstart, hdrop]
    exact ih (by omega) hrest
  | @block cs after rest hdoc hclose _ ih =>
    obtain ⟨n, rfl⟩ := Nat.exists_eq_add_of_le' (Nat.one_le_of_lt hn)
    have hline : startsLineComment ('/' :: '*' :: cs) ≠ true := fun h => by
      obtain ⟨text, htext, _⟩ := startsLineComment_iff.mp h
      cases htext
    have hblock : startsBlockComment ('/' :: '*' :: cs) = true :=
      startsBlockComment_iff.mpr ⟨cs, rfl, hdoc⟩
    have hafter := afterBlock_eq_some_iff.mpr hclose
    have hlength := hclose.length_le
    simp only [List.length_cons] at hn
    simp only [skipGaps, if_neg hline, if_pos hblock, hafter]
    exact ih (by omega) hrest

/-! ### Ends of words -/

lemma Gaps.length_le {cs rest : List Char} (h : Gaps cs rest) : rest.length ≤ cs.length := by
  induction h with
  | none rest => exact Nat.le_refl _
  | blank _ _ ih => simp only [List.length_cons]; omega
  | line _ _ _ _ ih => simp only [List.length_cons, List.length_append]; omega
  | block _ hclose _ ih =>
    have := hclose.length_le
    simp only [List.length_cons]
    omega

/-- A character that ends a word, and makes no literal of it. -/
def IsWordEnd (c : Char) : Prop := Text.isIdentContinue c = false ∧ c ∉ ['"', '\'', '#']

instance (c : Char) : Decidable (IsWordEnd c) := inferInstanceAs (Decidable (_ ∧ _))

/-- Separators end words, except for the number sign and the underscore. -/
lemma isWordEnd_of_mem_separators : ∀ n ∈ Text.separators, n ≠ '#'.toNat → n ≠ '_'.toNat →
    IsWordEnd (Char.ofNat n) := by
  decide +kernel

lemma isSeparator_of_isGap {c : Char} (h : isGap c = true) : Text.IsSeparator c := by
  rw [isGap, Bool.or_eq_true, Bool.or_eq_true] at h
  rcases h with (h | h) | h
  · exact Text.isSeparator_of_isBlank h
  · rw [beq_iff_eq.mp h]
    decide
  · rw [beq_iff_eq.mp h]
    decide

lemma isWordEnd_of_isGap {c : Char} (h : isGap c = true) : IsWordEnd c := by
  have hne : ∀ d, isGap d = false → c ≠ d := fun d hd hc => by
    rw [hc, hd] at h
    cases h
  have hends := isWordEnd_of_mem_separators c.toNat (isSeparator_of_isGap h)
    (mt Char.toNat_inj.mp (hne '#' (by decide))) (mt Char.toNat_inj.mp (hne '_' (by decide)))
  rwa [Char.ofNat_toNat] at hends

/-- What is passed over after a word cannot be read as a part of it, nor make a literal of it. -/
lemma Gaps.isWordEnd {rest : List Char} (h : Gaps rest []) : ∀ c ∈ rest.head?, IsWordEnd c := by
  intro c hc
  obtain ⟨cs, rfl⟩ := List.head?_eq_some_iff.mp hc
  have hslash : IsWordEnd '/' :=
    isWordEnd_of_mem_separators '/'.toNat (by decide) (by decide) (by decide)
  cases h with
  | blank hgap => exact isWordEnd_of_isGap hgap
  | line => exact hslash
  | block => exact hslash

end ApiContract.Code
