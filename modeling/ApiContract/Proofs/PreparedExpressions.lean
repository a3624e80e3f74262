import ApiContract.Evaluator
import Mathlib.Data.List.DropRight

/-!
# Prepared expressions

An evaluator does not get an expression as it stands in a specification: the blanks around it are
taken off, and then one mark of being optional at its end. What is left is described by where it
stands in the expression (`Evaluator.IsPrepared`), with no word on how it is found, and there is one
such text for each expression (`Evaluator.prepare_eq_iff`).

Text is trimmed from the left and then from the right. Of nothing but blanks the first step leaves
nothing to the second, so this case stands alone in `Text.IsTrimmed.trimBy_eq`.
-/

namespace ApiContract

namespace Text

/-! ### Text without its ends -/

/-- Characters without those of a class at either end: only such characters stand before and behind
them, and they neither begin nor end with one. -/
structure IsTrimmed (p : Char → Bool) (cs core : List Char) : Prop where
  split : ∃ before after, cs = before ++ (core ++ after) ∧ (∀ c ∈ before, p c) ∧ ∀ c ∈ after, p c
  head : ∀ h : core ≠ [], ¬ p (core.head h)
  last : ∀ h : core ≠ [], ¬ p (core.getLast h)

variable {p : Char → Bool} {cs core : List Char}

lemma trimBy_eq_rdropWhile (p : Char → Bool) (cs : List Char) :
    trimBy p cs = (cs.dropWhile p).rdropWhile p := rfl

lemma isTrimmed_trimBy (p : Char → Bool) (cs : List Char) : IsTrimmed p cs (trimBy p cs) where
  split := by
    refine ⟨cs.takeWhile p, (cs.dropWhile p).rtakeWhile p, ?_, fun _ => List.mem_takeWhile_imp,
      fun _ => List.mem_rtakeWhile_imp⟩
    rw [trimBy_eq_rdropWhile, List.rdropWhile_append_rtakeWhile, List.takeWhile_append_dropWhile]
  head h := by
    have hstart : trimBy p cs <+: cs.dropWhile p := List.rdropWhile_prefix p _
    rw [hstart.head h, List.head_dropWhile_not p]
    exact Bool.false_ne_true
  last h := List.rdropWhile_last_not p _ h

lemma IsTrimmed.trimBy_eq (h : IsTrimmed p cs core) : trimBy p cs = core := by
  obtain ⟨before, after, rfl, hbefore, hafter⟩ := h.split
  rw [trimBy_eq_rdropWhile, List.dropWhile_append_of_pos hbefore]
  cases core with
  | nil => rw [List.nil_append, List.dropWhile_eq_nil_iff.mpr hafter, List.rdropWhile_nil]
  | cons c rest =>
    have hleft : (c :: rest ++ after).dropWhile p = c :: rest ++ after :=
      List.dropWhile_cons_of_neg (h.head (List.cons_ne_nil _ _))
    have hright : (c :: rest ++ after).rdropWhile p = (c :: rest).rdropWhile p := by
      rw [List.rdropWhile, List.reverse_append,
        List.dropWhile_append_of_pos fun c hc => hafter c (List.mem_reverse.mp hc)]
      rfl
    rw [hleft, hright]
    exact List.rdropWhile_eq_self_iff.mpr h.last

/-- There is one way to trim a text. -/
theorem trimBy_eq_iff : trimBy p cs = core ↔ IsTrimmed p cs core :=
  ⟨fun h => h ▸ isTrimmed_trimBy p cs, IsTrimmed.trimBy_eq⟩

end Text

namespace Evaluator

/-! ### The mark of being optional -/

/-- What an evaluator gets for an expression: all that is left when the blanks at the ends are taken
off, without the mark of being optional at its end if there is one. -/
def IsPrepared (expression prepared : String) : Prop :=
  ∃ core, Text.IsTrimmed Text.isBlank expression.toList core ∧
    (core = prepared.toList ++ optionalSuffix.toList ∨
      core = prepared.toList ∧ ¬ optionalSuffix.toList <:+ core)

/-- An expression is prepared by taking off the blanks at its ends and then one mark of being
optional, if it ends with one. -/
theorem prepare_eq_iff {expression prepared : String} :
    prepare expression = prepared ↔ IsPrepared expression prepared := by
  simp only [IsPrepared, ← Text.trimBy_eq_iff, exists_eq_left']
  rw [prepare]
  generalize Text.trimBy Text.isBlank expression.toList = core
  by_cases hsuffix : optionalSuffix.toList <:+ core
  · obtain ⟨rest, rfl⟩ := hsuffix
    -- What is cut off is as long as the mark, so that it is the mark.
    simp [← String.toList_inj]
  · have hnot : ∀ rest, core ≠ rest ++ optionalSuffix.toList := fun rest h => hsuffix ⟨rest, h.symm⟩
    simp [← String.toList_inj, hsuffix, hnot]

/-- Of two marks the last one is taken off. -/
example : prepare " z.string().optional().optional()\n" = "z.string().optional()" := by decide

end Evaluator

end ApiContract
