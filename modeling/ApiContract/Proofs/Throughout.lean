import Mathlib.Data.List.Basic
import Mathlib.Logic.Relation

/-!
# Properties throughout a value

JSON values and type nodes have other values directly below them, which have values below them in
turn. A property holds throughout a value when it holds of all these. That is so when it holds of
the value and throughout each value directly below it (`throughout_iff`), and it carries over along
a translation that translates what is below (`throughout_map_iff`).
-/

namespace ApiContract

variable {α β : Type} {below : α → List α} {P : α → Prop}

/-- A property holds of a value and of all that is below it, at any depth. -/
def Throughout (below : α → List α) (P : α → Prop) (a : α) : Prop :=
  ∀ b, Relation.ReflTransGen (fun x y => y ∈ below x) a b → P b

theorem throughout_iff {a : α} :
    Throughout below P a ↔ P a ∧ ∀ b ∈ below a, Throughout below P b := by
  constructor
  · intro h
    exact ⟨h a .refl, fun b hb c hc => h c (Relation.ReflTransGen.head hb hc)⟩
  · rintro ⟨ha, hbelow⟩ c hc
    rcases hc.cases_head with rfl | ⟨b, hb, hbc⟩
    · exact ha
    · exact hbelow b hb c hbc

/-- A property holds throughout a value with nothing below it when it holds of the value. -/
lemma throughout_of_below_eq_nil {a : α} (hbelow : below a = []) (ha : P a) :
    Throughout below P a := by
  refine throughout_iff.mpr ⟨ha, fun b hb => ?_⟩
  rw [hbelow] at hb
  cases hb

/-- What holds throughout a translated value is a property of what is translated. -/
theorem throughout_map_iff {below' : β → List β} {P : β → Prop} {f : α → β}
    (h : ∀ a, below' (f a) = (below a).map f) (a : α) :
    Throughout below' P (f a) ↔ Throughout below (fun x => P (f x)) a := by
  constructor
  · intro hf b hb
    refine hf _ (hb.lift f fun x y hy => ?_)
    have hmem : f y ∈ (below x).map f := List.mem_map_of_mem hy
    rwa [← h] at hmem
  · intro ha b hb
    -- Whatever is below a translated value is the translation of something below.
    obtain ⟨c, hc, rfl⟩ : ∃ c, Relation.ReflTransGen (fun x y => y ∈ below x) a c ∧ f c = b := by
      induction hb with
      | refl => exact ⟨a, .refl, rfl⟩
      | tail _ hstep ih =>
        obtain ⟨c, hc, rfl⟩ := ih
        rw [h] at hstep
        obtain ⟨d, hd, rfl⟩ := List.mem_map.mp hstep
        exact ⟨d, hc.tail hd, rfl⟩
    exact ha c hc

end ApiContract
