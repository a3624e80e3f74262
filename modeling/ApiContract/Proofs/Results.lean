import Mathlib.Data.List.Forall2

/-!
# Results of computations in order

A computation that may fail is one after another of its steps; a traversal is one after another of
its items. These facts take a result apart into those of the steps. The lists that are traversed,
and the parts of lists, have their own facts at the end.
-/

namespace ApiContract

variable {ε α β γ : Type}

@[simp] lemma ok_bind (a : α) (f : α → Except ε β) : (Except.ok a >>= f) = f a := rfl

@[simp] lemma error_bind (e : ε) (f : α → Except ε β) :
    ((Except.error e : Except ε α) >>= f) = .error e := rfl

/-- One step after another answers when the first does and the second does on its answer. -/
lemma bind_eq_ok_iff {x : Except ε α} {f : α → Except ε β} {b : β} :
    (x >>= f) = .ok b ↔ ∃ a, x = .ok a ∧ f a = .ok b := by
  cases x with
  | error e => simp
  | ok a => simp

lemma map_eq_ok_iff {x : Except ε α} {f : α → β} {b : β} :
    x.map f = .ok b ↔ ∃ a, x = .ok a ∧ f a = b := by
  cases x <;> simp [Except.map]

lemma exists_eq_ok {x : Except ε α} (h : x.isOk = true) : ∃ a, x = .ok a := by
  cases x with
  | error e => cases h
  | ok a => exact ⟨a, rfl⟩

/-- A traversal answers when it does item by item. -/
theorem mapM_eq_ok_iff (f : α → Except ε β) (xs : List α) (ys : List β) :
    xs.mapM f = .ok ys ↔ List.Forall₂ (fun x y => f x = .ok y) xs ys := by
  induction xs generalizing ys with
  | nil =>
    rw [List.mapM_nil]
    cases ys <;> simp [pure, Except.pure]
  | cons x rest ih =>
    rw [List.mapM_cons, bind_eq_ok_iff, List.forall₂_cons_left_iff]
    constructor
    · rintro ⟨y, hy, h⟩
      obtain ⟨ys', hys, h⟩ := bind_eq_ok_iff.mp h
      cases h
      exact ⟨y, ys', hy, (ih ys').mp hys, rfl⟩
    · rintro ⟨y, ys', hy, hys, rfl⟩
      exact ⟨y, hy, bind_eq_ok_iff.mpr ⟨ys', (ih ys').mpr hys, rfl⟩⟩

/-- Every item of the first of two lists side by side has one beside it in the second. -/
lemma exists_mem_of_forall₂ {R : α → β → Prop} {xs : List α} {ys : List β}
    (h : List.Forall₂ R xs ys) {x : α} (hx : x ∈ xs) : ∃ y ∈ ys, R x y := by
  induction h with
  | nil => cases hx
  | cons hxy _ ih =>
    rcases List.mem_cons.mp hx with rfl | hx
    · exact ⟨_, List.mem_cons_self, hxy⟩
    · obtain ⟨y, hmem, hy⟩ := ih hx
      exact ⟨y, List.mem_cons_of_mem _ hmem, hy⟩

/-- What a traversal gives comes from one of the items. -/
lemma exists_of_mem_mapM {f : α → Except ε β} {xs : List α} {ys : List β} (h : xs.mapM f = .ok ys)
    {y : β} (hy : y ∈ ys) : ∃ x ∈ xs, f x = .ok y :=
  exists_mem_of_forall₂ ((mapM_eq_ok_iff f xs ys).mp h).flip hy

/-- Every item of a traversal that answers has given something. -/
lemma exists_of_mapM_of_mem {f : α → Except ε β} {xs : List α} {ys : List β}
    (h : xs.mapM f = .ok ys) {x : α} (hx : x ∈ xs) : ∃ y ∈ ys, f x = .ok y :=
  exists_mem_of_forall₂ ((mapM_eq_ok_iff f xs ys).mp h) hx

/-- A traversal whose items all give something answers. -/
lemma exists_mapM_eq_ok {f : α → Except ε β} {xs : List α} (h : ∀ x ∈ xs, ∃ y, f x = .ok y) :
    ∃ ys, xs.mapM f = .ok ys := by
  induction xs with
  | nil => exact ⟨[], rfl⟩
  | cons x rest ih =>
    obtain ⟨⟨y, hy⟩, hrest⟩ := List.forall_mem_cons.mp h
    obtain ⟨ys, hys⟩ := ih hrest
    exact ⟨y :: ys, by rw [List.mapM_cons, hy, hys]; rfl⟩

/-- A traversal that gives the same as a map. -/
lemma mapM_eq_ok_of_forall {f : α → Except ε β} {g : α → β} {xs : List α}
    (h : ∀ x ∈ xs, f x = .ok (g x)) : xs.mapM f = .ok (xs.map g) := by
  induction xs with
  | nil => rfl
  | cons x rest ih =>
    obtain ⟨hx, hrest⟩ := List.forall_mem_cons.mp h
    rw [List.mapM_cons, hx, ih hrest]
    rfl

/-- Of two lists side by side, one is traversed when the other is, if the same holds item by item.
-/
lemma exists_mapM_of_forall₂ {R : α → α → Prop} {S : β → β → Prop} {f g : α → Except ε β}
    {xs xs' : List α} (h : List.Forall₂ R xs xs')
    (hstep : ∀ x x', R x x' → ∀ y, f x = .ok y → ∃ y', g x' = .ok y' ∧ S y y') {ys : List β}
    (hys : xs.mapM f = .ok ys) : ∃ ys', xs'.mapM g = .ok ys' ∧ List.Forall₂ S ys ys' := by
  induction h generalizing ys with
  | nil =>
    cases hys
    exact ⟨[], rfl, .nil⟩
  | @cons x x' _ _ hx _ ih =>
    rw [List.mapM_cons] at hys
    obtain ⟨y, hy, hys⟩ := bind_eq_ok_iff.mp hys
    obtain ⟨rest, hrest, hys⟩ := bind_eq_ok_iff.mp hys
    cases hys
    obtain ⟨y', hy', hsame⟩ := hstep x x' hx y hy
    obtain ⟨rest', hrest', hall⟩ := ih hrest
    refine ⟨y' :: rest', ?_, .cons hsame hall⟩
    rw [List.mapM_cons, hy', hrest']
    rfl

/-- A traversal depends on what is done with the items that it passes. -/
lemma mapM_congr {f g : α → Except ε β} {xs : List α} (h : ∀ x ∈ xs, f x = g x) :
    xs.mapM f = xs.mapM g := by
  induction xs with
  | nil => rfl
  | cons x rest ih =>
    have hrest : rest.mapM f = rest.mapM g := ih fun y hy => h y (List.mem_cons_of_mem _ hy)
    rw [List.mapM_cons, List.mapM_cons, h x List.mem_cons_self, hrest]

/-- A traversal that only adds to what was found before adds what it finds item by item. -/
lemma foldlM_eq_append {f : List β → α → Except ε (List β)} {g : α → List β} {xs : List α}
    (h : ∀ x ∈ xs, ∀ found, f found x = .ok (found ++ g x)) (found : List β) :
    xs.foldlM f found = .ok (found ++ xs.flatMap g) := by
  induction xs generalizing found with
  | nil =>
    rw [List.flatMap_nil, List.append_nil]
    rfl
  | cons x rest ih =>
    obtain ⟨hx, hrest⟩ := List.forall_mem_cons.mp h
    rw [List.foldlM_cons, hx, ok_bind, ih hrest, List.flatMap_cons, List.append_assoc]

lemma forM_cons_eq_bind (f : α → Except ε Unit) (x : α) (rest : List α) :
    (x :: rest).forM f = (f x >>= fun _ => rest.forM f) := rfl

lemma forM_append (f : α → Except ε Unit) (xs ys : List α) :
    (xs ++ ys).forM f = (xs.forM f >>= fun _ => ys.forM f) := by
  simp only [List.forM_eq_forM, List.forM_append]

lemma forM_singleton (f : α → Except ε Unit) (x : α) : [x].forM f = f x := by
  rw [forM_cons_eq_bind]
  cases f x <;> rfl

/-- A check of items one after another passes when every item does. -/
theorem forM_eq_ok_iff (f : α → Except ε Unit) (xs : List α) :
    xs.forM f = .ok () ↔ ∀ x ∈ xs, f x = .ok () := by
  induction xs with
  | nil => simp [pure, Except.pure]
  | cons x rest ih =>
    rw [forM_cons_eq_bind, bind_eq_ok_iff, List.forall_mem_cons, ← ih]
    exact ⟨fun ⟨_, hx, hrest⟩ => ⟨hx, hrest⟩, fun ⟨hx, hrest⟩ => ⟨(), hx, hrest⟩⟩

/-- An item of a list that only items with a property stand before is the first one, or that of the
rest when the first has the property. -/
lemma exists_split_cons_iff {P : α → Prop} (a x : α) (rest : List α) :
    (∃ before after, x :: rest = before ++ a :: after ∧ ∀ y ∈ before, P y) ↔
      x = a ∨ P x ∧ ∃ before after, rest = before ++ a :: after ∧ ∀ y ∈ before, P y := by
  constructor
  · rintro ⟨before, after, hsplit, hbefore⟩
    cases before with
    | nil => exact Or.inl (List.cons.inj hsplit).1
    | cons y before =>
      obtain ⟨rfl, hrest⟩ := List.cons.inj hsplit
      obtain ⟨hx, hbefore⟩ := List.forall_mem_cons.mp hbefore
      exact Or.inr ⟨hx, before, after, hrest, hbefore⟩
  · rintro (rfl | ⟨hx, before, after, rfl, hbefore⟩)
    · exact ⟨[], rest, rfl, nofun⟩
    · exact ⟨x :: before, after, rfl, List.forall_mem_cons.mpr ⟨hx, hbefore⟩⟩

/-- Of items that do not all have a property, there is a first one without it. -/
lemma exists_first_not {P : α → Prop} {xs : List α} (h : ¬ ∀ x ∈ xs, P x) :
    ∃ before x after, xs = before ++ x :: after ∧ (∀ y ∈ before, P y) ∧ ¬ P x := by
  induction xs with
  | nil => exact absurd nofun h
  | cons x rest ih =>
    by_cases hx : P x
    · have hrest : ¬ ∀ y ∈ rest, P y := fun hall => h (List.forall_mem_cons.mpr ⟨hx, hall⟩)
      obtain ⟨before, y, after, rfl, hbefore, hy⟩ := ih hrest
      exact ⟨x :: before, y, after, rfl, List.forall_mem_cons.mpr ⟨hx, hbefore⟩, hy⟩
    · exact ⟨[], x, rest, rfl, nofun, hx⟩

/-- A check of items one after another fails with the first item that does not pass. -/
theorem forM_eq_error_iff (f : α → Except ε Unit) (xs : List α) (e : ε) :
    xs.forM f = .error e ↔ ∃ before x after, xs = before ++ x :: after ∧
      (∀ y ∈ before, f y = .ok ()) ∧ f x = .error e := by
  have hitem : ∀ xs : List α, (∃ before x after, xs = before ++ x :: after ∧
      (∀ y ∈ before, f y = .ok ()) ∧ f x = .error e) ↔ ∃ x, f x = .error e ∧
        ∃ before after, xs = before ++ x :: after ∧ ∀ y ∈ before, f y = .ok () := fun xs =>
    ⟨fun ⟨before, x, after, hsplit, hbefore, hx⟩ => ⟨x, hx, before, after, hsplit, hbefore⟩,
      fun ⟨x, hx, before, after, hsplit, hbefore⟩ => ⟨before, x, after, hsplit, hbefore, hx⟩⟩
  rw [hitem]
  induction xs with
  | nil => simp [pure, Except.pure]
  | cons x rest ih =>
    simp only [exists_split_cons_iff]
    rw [forM_cons_eq_bind]
    cases hx : f x with
    | error err => simp [hx]
    | ok _ =>
      rw [ok_bind]
      refine ih.trans (exists_congr fun y => and_congr_right fun hy => ?_)
      have hne : x ≠ y := by
        rintro rfl
        cases hx.symm.trans hy
      simp only [hne, true_and, false_or]

/-- A check of the items that others give is a check of each of these in turn. -/
lemma forM_flatMap (f : α → List β) (g : β → Except ε Unit) (xs : List α) :
    (xs.flatMap f).forM g = xs.forM fun x => (f x).forM g := by
  induction xs with
  | nil => rfl
  | cons x rest ih =>
    simp only [List.forM_eq_forM, List.forM_cons, List.flatMap_cons, List.forM_append] at ih ⊢
    rw [ih]

/-- Checks within checks are one check of all items in order. -/
lemma forM_forM (f : α → List β) (g : α → β → Except ε Unit) (xs : List α) :
    (xs.forM fun x => (f x).forM (g x)) =
      (xs.flatMap fun x => (f x).map (x, ·)).forM fun p => g p.1 p.2 := by
  rw [forM_flatMap]
  simp only [List.forM_eq_forM, List.forM_map]

/-! ### Failures -/

/-- Whether and how a computation fails, without what it gives. -/
def outcome (x : Except ε α) : Except ε Unit := x.map fun _ => ()

@[simp] lemma outcome_ok (a : α) : outcome (.ok a : Except ε α) = .ok () := rfl

@[simp] lemma outcome_error (e : ε) : outcome (.error e : Except ε α) = .error e := rfl

lemma outcome_eq_error_iff {x : Except ε α} {e : ε} : outcome x = .error e ↔ x = .error e := by
  cases x <;> simp

/-- A failure of two steps is one of the first or else that of the second, if it is the same for
every answer of the first. -/
lemma outcome_bind {x : Except ε α} {f : α → Except ε β} {c : Except ε Unit}
    (h : ∀ a, outcome (f a) = c) : outcome (x >>= f) = (outcome x >>= fun _ => c) := by
  cases x with
  | error e => rfl
  | ok a => exact h a

lemma outcome_map (x : Except ε α) (f : α → β) : outcome (x.map f) = outcome x := by
  cases x <;> rfl

/-- What never fails does not matter after a computation. -/
lemma outcome_bind_ok (x : Except ε α) (f : α → β) :
    outcome (x >>= fun a => .ok (f a)) = outcome x := by
  cases x <;> rfl

/-- A traversal fails like the check of its items. -/
theorem outcome_mapM (f : α → Except ε β) (xs : List α) :
    outcome (xs.mapM f) = xs.forM fun x => outcome (f x) := by
  induction xs with
  | nil => rfl
  | cons x rest ih =>
    rw [List.mapM_cons, forM_cons_eq_bind]
    cases f x with
    | error e => rfl
    | ok y =>
      rw [ok_bind, outcome_ok, ok_bind, ← ih]
      exact outcome_bind_ok _ _

/-- A failure that what follows does not have is one of the first step. -/
lemma bind_eq_error_iff_of_ne {x : Except ε α} {f : α → Except ε β} {e : ε}
    (h : ∀ a, x = .ok a → f a ≠ .error e) : (x >>= f) = .error e ↔ x = .error e := by
  cases x with
  | error err => simp
  | ok a => simpa using h a rfl

/-- A computation whose failures all have a property. -/
def FailsOnly (P : ε → Prop) (x : Except ε α) : Prop := ∀ e, x = .error e → P e

section FailsOnly

variable {P : ε → Prop}

lemma failsOnly_ok (a : α) : FailsOnly P (.ok a : Except ε α) := fun _ h => nomatch h

lemma failsOnly_error {e : ε} (h : P e) : FailsOnly P (.error e : Except ε α) := by
  rintro _ ⟨⟩
  exact h

lemma FailsOnly.bind {x : Except ε α} {f : α → Except ε β} (hx : FailsOnly P x)
    (hf : ∀ a, x = .ok a → FailsOnly P (f a)) : FailsOnly P (x >>= f) := by
  cases x with
  | error e => exact failsOnly_error (hx e rfl)
  | ok a => exact hf a rfl

lemma FailsOnly.map {x : Except ε α} (hx : FailsOnly P x) (f : α → β) :
    FailsOnly P (x.map f) := by
  cases x with
  | error e => exact failsOnly_error (hx e rfl)
  | ok a => exact failsOnly_ok _

lemma failsOnly_mapM {f : α → Except ε β} {xs : List α} (h : ∀ x ∈ xs, FailsOnly P (f x)) :
    FailsOnly P (xs.mapM f) := by
  induction xs with
  | nil => exact failsOnly_ok _
  | cons x rest ih =>
    obtain ⟨hx, hrest⟩ := List.forall_mem_cons.mp h
    rw [List.mapM_cons]
    exact hx.bind fun _ _ => (ih hrest).bind fun _ _ => failsOnly_ok _

lemma failsOnly_forM {f : α → Except ε Unit} {xs : List α} (h : ∀ x ∈ xs, FailsOnly P (f x)) :
    FailsOnly P (xs.forM f) := by
  intro e he
  obtain ⟨_, x, _, rfl, _, hx⟩ := (forM_eq_error_iff f xs e).mp he
  exact h x (by simp) e hx

lemma failsOnly_foldlM {f : β → α → Except ε β} (h : ∀ b a, FailsOnly P (f b a)) (xs : List α)
    (b : β) : FailsOnly P (xs.foldlM f b) := by
  induction xs generalizing b with
  | nil => exact failsOnly_ok _
  | cons x rest ih =>
    rw [List.foldlM_cons]
    exact (h b x).bind fun next _ => ih next

end FailsOnly

/-! ### Parts of a list -/

/-- A list is split at the last place of an item in one way. -/
lemma append_cons_inj_of_not_mem_right {xs xs' ys ys' : List α} {x : α} (h : x ∉ ys) (h' : x ∉ ys')
    (heq : xs ++ x :: ys = xs' ++ x :: ys') : xs = xs' ∧ ys = ys' := by
  rcases List.append_eq_append_iff.mp heq with ⟨mid, rfl, hmid⟩ | ⟨mid, rfl, hmid⟩
  · cases mid with
    | nil => simpa using hmid
    | cons y mid =>
      obtain ⟨rfl, hys⟩ := List.cons_eq_cons.mp hmid
      exact absurd (by simp [hys]) h
  · cases mid with
    | nil => simpa [eq_comm] using hmid
    | cons y mid =>
      obtain ⟨rfl, hys⟩ := List.cons_eq_cons.mp hmid
      exact absurd (by simp [hys]) h'

/-! ### Lists side by side -/

/-- A list stays the same under a change exactly when every item does. -/
lemma map_eq_self_iff (f : α → α) (xs : List α) : xs.map f = xs ↔ ∀ x ∈ xs, f x = x := by
  simpa using List.map_inj_left (l := xs) (f := f) (g := id)

/-- Lists side by side have the same views item by item. -/
lemma map_eq_map_of_forall₂ {R : α → β → Prop} {f : α → γ} {g : β → γ} {xs : List α} {ys : List β}
    (h : List.Forall₂ R xs ys) (hfg : ∀ x ∈ xs, ∀ y, R x y → g y = f x) : ys.map g = xs.map f := by
  induction h with
  | nil => rfl
  | cons hxy _ ih =>
    rw [List.map_cons, List.map_cons, hfg _ List.mem_cons_self _ hxy,
      ih fun x hx => hfg x (List.mem_cons_of_mem _ hx)]

/-- Every place of the first of two lists side by side is one of the second. -/
lemma exists_getElem?_of_forall₂ {R : α → β → Prop} {xs : List α} {ys : List β}
    (h : List.Forall₂ R xs ys) {n : Nat} {x : α} (hx : xs[n]? = some x) :
    ∃ y, ys[n]? = some y ∧ R x y := by
  induction h generalizing n with
  | nil => cases hx
  | cons hxy _ ih =>
    cases n with
    | zero =>
      cases hx
      exact ⟨_, rfl, hxy⟩
    | succ n => exact ih hx

/-- Among items with distinct keys, the first one with the key of an item is that item. -/
lemma find?_key_of_nodup [DecidableEq γ] (key : α → γ) {xs : List α} (h : (xs.map key).Nodup)
    {n : Nat} {x : α} (hx : xs[n]? = some x) :
    xs.find? (fun y => key y = key x) = some x ∧ xs.findIdx? (fun y => key y = key x) = some n := by
  induction xs generalizing n with
  | nil => cases hx
  | cons y rest ih =>
    rw [List.map_cons, List.nodup_cons] at h
    cases n with
    | zero =>
      cases hx
      simp [List.findIdx?_cons]
    | succ n =>
      have hrest : rest[n]? = some x := hx
      have hne : key y ≠ key x := by
        intro heq
        refine h.1 (heq ▸ List.mem_map_of_mem ?_)
        exact List.mem_of_getElem? hrest
      obtain ⟨hfind, hidx⟩ := ih h.2 hrest
      rw [List.find?_cons_of_neg (by simpa using hne), List.findIdx?_cons, hidx]
      exact ⟨hfind, by simp [hne]⟩

end ApiContract
