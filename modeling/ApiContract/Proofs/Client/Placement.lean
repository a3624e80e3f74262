import ApiContract.Client.Placement
import ApiContract.Proofs.Results

/-!
# Placed inputs

The places of inputs are read off their bindings: placement succeeds when every source is known,
and then each of its four lists holds the names with one binding (`ofInputs_eq_ok_iff`). The
document and the requests of the client are both described through `namesBound`.
-/

namespace ApiContract.Client

/-- The names of the inputs with a binding, in order of declaration. -/
def namesBound (binding : Binding) (inputs : Table String InputField) : List String :=
  (inputs.filter fun e => e.2.source.binding = binding).map Prod.fst

lemma namesBound_cons (binding : Binding) (e : String × InputField)
    (inputs : Table String InputField) :
    namesBound binding (e :: inputs) =
      (if e.2.source.binding = binding then [e.1] else []) ++ namesBound binding inputs := by
  by_cases h : e.2.source.binding = binding <;> simp [namesBound, h]

lemma mem_namesBound_iff {binding : Binding} {inputs : Table String InputField} {name : String} :
    name ∈ namesBound binding inputs ↔
      ∃ field, (name, field) ∈ inputs ∧ field.source.binding = binding := by
  simp [namesBound]

/-- The names with a binding are distinct when all names are. -/
lemma nodup_namesBound {inputs : Table String InputField} (h : inputs.keys.Nodup)
    (binding : Binding) : (namesBound binding inputs).Nodup :=
  h.sublist (List.filter_sublist.map Prod.fst)

/-- The names of inputs by their bindings. -/
def Placement.ofBindings (inputs : Table String InputField) : Placement where
  headers := namesBound (.location .header) inputs
  query := namesBound (.location .query) inputs
  body := namesBound .body inputs
  params := namesBound (.location .path) inputs

lemma binding_eq_body_iff (s : InputSource) : s.binding = .body ↔ s = .body := by
  cases s <;> simp [InputSource.binding]

lemma isKnown_eq_false_iff (s : InputSource) :
    s.isKnown = false ↔ ∃ raw, s.binding = .unknown raw := by
  cases s <;> simp [InputSource.binding, InputSource.isKnown]

/-- One more input is put where its binding says. -/
lemma Placement.ofBindings_cons {name : String} {field : InputField}
    (hknown : field.source.isKnown = true) (rest : Table String InputField) :
    ofBindings ((name, field) :: rest) = (ofBindings rest).cons name field.source.binding := by
  simp only [ofBindings, namesBound_cons]
  cases hbinding : field.source.binding with
  | location l => cases l <;> simp [Placement.cons]
  | body => simp [Placement.cons]
  | excluded => simp [Placement.cons]
  | unknown raw => simp [(isKnown_eq_false_iff _).mpr ⟨raw, hbinding⟩] at hknown

lemma Placement.ofInputs_cons {name : String} {field : InputField}
    (hknown : field.source.isKnown = true) (operation : String) (rest : Table String InputField) :
    ofInputs operation ((name, field) :: rest) =
      (ofInputs operation rest >>= fun p => .ok (p.cons name field.source.binding)) := by
  rw [ofInputs]
  cases hbinding : field.source.binding with
  | unknown raw => simp [(isKnown_eq_false_iff _).mpr ⟨raw, hbinding⟩] at hknown
  | _ => rfl

/-- Inputs are placed exactly when all their sources are known, and then by their bindings. -/
theorem Placement.ofInputs_eq_ok_iff (operation : String) (inputs : Table String InputField)
    (p : Placement) :
    ofInputs operation inputs = .ok p ↔
      (∀ e ∈ inputs, e.2.source.isKnown = true) ∧ p = ofBindings inputs := by
  induction inputs generalizing p with
  | nil =>
    rw [ofInputs, Except.ok.injEq]
    exact ⟨fun h => ⟨fun _ he => absurd he List.not_mem_nil, h.symm⟩, fun h => h.2.symm⟩
  | cons e rest ih =>
    obtain ⟨name, field⟩ := e
    rw [List.forall_mem_cons]
    by_cases hknown : field.source.isKnown = true
    · rw [ofInputs_cons hknown, bind_eq_ok_iff, ofBindings_cons hknown]
      constructor
      · rintro ⟨q, hq, h⟩
        cases h
        obtain ⟨hrest, rfl⟩ := (ih q).mp hq
        exact ⟨⟨hknown, hrest⟩, rfl⟩
      · rintro ⟨⟨_, hrest⟩, rfl⟩
        exact ⟨_, (ih _).mpr ⟨hrest, rfl⟩, rfl⟩
    · obtain ⟨raw, hraw⟩ := (isKnown_eq_false_iff _).mp (Bool.eq_false_iff.mpr hknown)
      rw [ofInputs, hraw]
      simp [hknown]

end ApiContract.Client
