import ApiContract.Trace
import Mathlib.Data.List.Basic

/-!
# Traces of computations in order

A computation after another adds its steps to those of the first, unless the first one fails: then
the trace ends where it failed. So the steps of any kind are those of the parts in order. Two kinds
matter outside the log: the calls of the evaluator and those of the hook.
-/

namespace ApiContract.Traced

variable {η α β γ : Type}

/-! ### One computation after another -/

/-- What comes after an answer adds its steps. -/
lemma bind_of_ok {x : Traced η α} {a : α} (h : x.result = .ok a) (f : α → Traced η β) :
    (x >>= f) = ⟨x.steps ++ (f a).steps, (f a).result⟩ := by
  show bind x f = _
  simp only [bind, h]

/-- Nothing comes after an error. -/
lemma bind_of_eq_error {x : Traced η α} {e : Error} (h : x.result = .error e)
    (f : α → Traced η β) : (x >>= f) = ⟨x.steps, .error e⟩ := by
  show bind x f = _
  simp only [bind, h]

/-- Three computations in order can be put together from either end. -/
theorem bind_assoc (x : Traced η α) (f : α → Traced η β) (g : β → Traced η γ) :
    (x >>= f) >>= g = x >>= fun a => f a >>= g := by
  cases hx : x.result with
  | error e =>
    rw [bind_of_eq_error hx, bind_of_eq_error hx, bind_of_eq_error rfl]
  | ok a =>
    rw [bind_of_ok hx, bind_of_ok hx]
    cases hf : (f a).result with
    | error e => rw [bind_of_eq_error rfl, bind_of_eq_error hf]
    | ok b => rw [bind_of_ok rfl, bind_of_ok hf, List.append_assoc]

lemma pure_bind (a : α) (f : α → Traced η β) : (Pure.pure a >>= f) = f a :=
  bind_of_ok (x := Pure.pure a) rfl f

/-! ### Steps of one kind -/

section Kind

variable {κ : Type} (kind : Step η → Option κ)

lemma filterMap_steps_bind_of_ok {x : Traced η α} {a : α} (h : x.result = .ok a)
    (f : α → Traced η β) :
    (x >>= f).steps.filterMap kind = x.steps.filterMap kind ++ (f a).steps.filterMap kind := by
  rw [bind_of_ok h, List.filterMap_append]

lemma filterMap_steps_bind_of_error {x : Traced η α} {e : Error} (h : x.result = .error e)
    (f : α → Traced η β) : (x >>= f).steps.filterMap kind = x.steps.filterMap kind := by
  rw [bind_of_eq_error h]

/-- A computation has no step of a kind when its parts have none. -/
lemma filterMap_steps_bind_eq_nil {x : Traced η α} {f : α → Traced η β}
    (hx : x.steps.filterMap kind = [])
    (hf : ∀ a, x.result = .ok a → (f a).steps.filterMap kind = []) :
    (x >>= f).steps.filterMap kind = [] := by
  cases hresult : x.result with
  | error e => rw [filterMap_steps_bind_of_error kind hresult, hx]
  | ok a => rw [filterMap_steps_bind_of_ok kind hresult, hx, hf a hresult, List.append_nil]

lemma filterMap_steps_logAll (hevent : ∀ e, kind (.event e) = none) (events : List Event) :
    (logAll events : Traced η Unit).steps.filterMap kind = [] := by
  rw [logAll, List.filterMap_map, List.filterMap_eq_nil_iff]
  exact fun e _ => hevent e

end Kind

lemma calls_bind_of_ok {x : Traced η α} {a : α} (h : x.result = .ok a) (f : α → Traced η β) :
    (x >>= f).calls = x.calls ++ (f a).calls :=
  filterMap_steps_bind_of_ok _ h f

lemma calls_bind_of_error {x : Traced η α} {e : Error} (h : x.result = .error e)
    (f : α → Traced η β) : (x >>= f).calls = x.calls :=
  filterMap_steps_bind_of_error _ h f

/-- A computation calls the evaluator nowhere when its parts do not. -/
lemma calls_bind_eq_nil {x : Traced η α} {f : α → Traced η β} (hx : x.calls = [])
    (hf : ∀ a, x.result = .ok a → (f a).calls = []) : (x >>= f).calls = [] :=
  filterMap_steps_bind_eq_nil _ hx hf

lemma calls_logAll (events : List Event) : (logAll events : Traced η Unit).calls = [] :=
  filterMap_steps_logAll _ (fun _ => rfl) events

lemma hookCalls_bind_of_ok {x : Traced η α} {a : α} (h : x.result = .ok a)
    (f : α → Traced η β) : (x >>= f).hookCalls = x.hookCalls ++ (f a).hookCalls :=
  filterMap_steps_bind_of_ok _ h f

lemma hookCalls_bind_of_error {x : Traced η α} {e : Error} (h : x.result = .error e)
    (f : α → Traced η β) : (x >>= f).hookCalls = x.hookCalls :=
  filterMap_steps_bind_of_error _ h f

/-- A computation calls the hook nowhere when its parts do not. -/
lemma hookCalls_bind_eq_nil {x : Traced η α} {f : α → Traced η β} (hx : x.hookCalls = [])
    (hf : ∀ a, x.result = .ok a → (f a).hookCalls = []) : (x >>= f).hookCalls = [] :=
  filterMap_steps_bind_eq_nil _ hx hf

lemma hookCalls_logAll (events : List Event) :
    (logAll events : Traced η Unit).hookCalls = [] :=
  filterMap_steps_logAll _ (fun _ => rfl) events

end ApiContract.Traced
