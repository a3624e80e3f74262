import ApiContract.Proofs.Client.Failures
import ApiContract.Proofs.Client.Placement
import ApiContract.Proofs.OpenApi.DocumentedInputs
import ApiContract.Proofs.OpenApi.SpecDocument

/-!
# Unknown sources

The client and the document look for unknown sources apart from each other: the client while it
places the inputs of each operation, the document in the inputs that are not internal, and only once
for each operation before anything is evaluated. Both come down to one check of the declared inputs
in their order (`outcome_ofGroups`, `outcome_taggedDefs`), and nothing else fails for an unknown
source. So they refuse the same specifications for it and name the same input
(`unknownSource_agree`).
-/

namespace ApiContract

open Client PathsBuilder

/-! ### Declared inputs -/

/-- An input with the name of its operation. -/
structure DeclaredInput where
  operation : String
  name : String
  source : InputSource

/-- An input has to have a known source. -/
def DeclaredInput.check (i : DeclaredInput) : Except Error Unit :=
  match i.source with
  | .other raw => .error (.unknownSource i.name i.operation raw)
  | _ => .ok ()

/-- The inputs of an operation, in order of declaration. -/
def Operation.declaredInputs (op : Operation) : List DeclaredInput :=
  op.inputs.map fun e => ⟨op.name, e.1, e.2.source⟩

/-- The inputs of a specification, in order of groups, operations and inputs. -/
def ApiSpec.declaredInputs (spec : ApiSpec) : List DeclaredInput :=
  spec.operations.flatMap fun o => o.2.declaredInputs

/-- The first input of a specification whose source is not known: a field of an operation, with the
name that its source has. -/
def ApiSpec.IsFirstUnknown (spec : ApiSpec) (field operation source : String) : Prop :=
  ∃ before after, spec.declaredInputs = before ++ ⟨operation, field, .other source⟩ :: after ∧
    ∀ i ∈ before, i.source.isKnown = true

namespace DeclaredInput

lemma check_eq_ok_iff {i : DeclaredInput} : i.check = .ok () ↔ i.source.isKnown = true := by
  unfold check
  cases i.source <;> simp [InputSource.isKnown]

lemma check_eq_error_iff {i : DeclaredInput} {field operation source : String} :
    i.check = .error (.unknownSource field operation source) ↔
      i = ⟨operation, field, .other source⟩ := by
  obtain ⟨owner, name, s⟩ := i
  cases s with
  | other raw =>
    simp only [check, Except.error.injEq, Error.unknownSource.injEq, DeclaredInput.mk.injEq,
      InputSource.other.injEq]
    tauto
  | _ => simp [check]

end DeclaredInput

/-- The check of all inputs stops at the first one whose source is not known. -/
lemma ApiSpec.check_declaredInputs_eq_error_iff {spec : ApiSpec} {field operation source : String} :
    spec.declaredInputs.forM DeclaredInput.check =
        .error (.unknownSource field operation source) ↔
      spec.IsFirstUnknown field operation source := by
  rw [forM_eq_error_iff]
  simp only [DeclaredInput.check_eq_ok_iff, DeclaredInput.check_eq_error_iff]
  constructor
  · rintro ⟨before, _, after, hsplit, hbefore, rfl⟩
    exact ⟨before, after, hsplit, hbefore⟩
  · rintro ⟨before, after, hsplit, hbefore⟩
    exact ⟨before, _, after, hsplit, hbefore, rfl⟩

/-! ### The client -/

/-- Inputs are placed when each of them passes. -/
lemma outcome_ofInputs (operation : String) (inputs : Table String InputField) :
    outcome (Placement.ofInputs operation inputs) =
      inputs.forM fun e => DeclaredInput.check ⟨operation, e.1, e.2.source⟩ := by
  induction inputs with
  | nil => rfl
  | cons e rest ih =>
    obtain ⟨name, field⟩ := e
    rw [forM_cons_eq_bind]
    cases hsource : field.source with
    | other raw => simp [Placement.ofInputs, hsource, InputSource.binding, DeclaredInput.check]
    | _ =>
      rw [Placement.ofInputs_cons (by rw [hsource]; rfl), outcome_bind_ok, ih]
      rfl

lemma outcome_placement (op : Operation) :
    outcome (Placement.ofOperation op) = op.declaredInputs.forM DeclaredInput.check := by
  rw [Placement.ofOperation, outcome_ofInputs, Operation.declaredInputs]
  simp only [List.forM_eq_forM, List.forM_map]

/-- Endpoints are planned when every declared input passes. -/
theorem outcome_ofGroups (spec : ApiSpec) :
    outcome (Endpoint.ofGroups spec.groups) = spec.declaredInputs.forM DeclaredInput.check := by
  have hoperation : ∀ group op, outcome (Endpoint.ofOperation group op) =
      op.declaredInputs.forM DeclaredInput.check := fun group op => by
    rw [← outcome_placement]
    exact outcome_bind_ok _ _
  have hgroups : outcome (Endpoint.ofGroups spec.groups) = spec.groups.forM fun g =>
      g.2.forM fun op => op.declaredInputs.forM DeclaredInput.check := by
    rw [Endpoint.ofGroups]
    refine (outcome_bind_ok _ _).trans ?_
    simp only [outcome_mapM, hoperation]
  rw [hgroups, ApiSpec.declaredInputs, ApiSpec.operations, forM_flatMap, forM_flatMap]
  simp only [List.forM_eq_forM, List.forM_map]

/-! ### The document -/

/-- The document's view of an operation is there when every declared input passes: an internal one
passes as well, so it does not matter that it is left out. -/
lemma outcome_ofOperation (op : Operation) (sourceFile : String) :
    outcome (OperationDef.ofOperation op sourceFile) =
      op.declaredInputs.forM DeclaredInput.check := by
  have hentries : ∀ entries : Table String InputField,
      (((entries.filter fun e => e.2.source ≠ .internal).map fun e =>
        Selector.ofField e.1 e.2).find? (fun s => !s.source.isKnown)).elim (.ok ())
          (fun s => .error (OperationDef.unknownSource s op.name)) =
        (entries.map fun e => (⟨op.name, e.1, e.2.source⟩ : DeclaredInput)).forM
          DeclaredInput.check := by
    intro entries
    induction entries with
    | nil => rfl
    | cons e rest ih =>
      obtain ⟨name, field⟩ := e
      rw [List.map_cons, forM_cons_eq_bind, ← ih]
      cases hsource : field.source <;>
        simp [hsource, Selector.ofField, InputSource.isKnown, DeclaredInput.check,
          OperationDef.unknownSource, InputSource.name]
  have hsearch : (op.selectors.find? fun s => !s.source.isKnown).elim (.ok ())
      (fun s => .error (OperationDef.unknownSource s op.name)) =
        op.declaredInputs.forM DeclaredInput.check := hentries op.inputs
  rw [← hsearch]
  unfold OperationDef.ofOperation
  split
  · rename_i s hs
    rw [hs]
    rfl
  · rename_i hs
    rw [hs]
    rfl

/-- The operations of a specification are declared when every declared input passes. -/
theorem outcome_taggedDefs (spec : ApiSpec) :
    outcome (spec.operations.mapM fun o => Document.taggedDef o.1 o.2) =
      spec.declaredInputs.forM DeclaredInput.check := by
  have htagged : ∀ group op, outcome (Document.taggedDef group op) =
      op.declaredInputs.forM DeclaredInput.check := fun group op => by
    rw [← outcome_ofOperation op group, Document.taggedDef]
    cases OperationDef.ofOperation op group with
    | error e => rfl
    | ok d =>
      rw [ok_bind]
      split <;> rfl
  rw [outcome_mapM, ApiSpec.declaredInputs, forM_flatMap]
  simp only [htagged]

/-! ### Evaluation -/

/-- The failures of an evaluator. -/
def IsEvaluationFailure (e : Error) : Prop :=
  ∃ expression message, e = .evaluation expression message

/-- An evaluator that fails only with failures of its own. -/
def IsEvaluatorProper (evaluator : Evaluator) : Prop :=
  ∀ expression definitions, FailsOnly IsEvaluationFailure (evaluator expression definitions).schema

/-- Once its sources are known, an operation is finished unless the evaluator fails. -/
lemma failsOnly_finished {evaluator : Evaluator} (heval : IsEvaluatorProper evaluator)
    (definitions : Option String) (merged : String × Method → Responses) {op : OperationDef}
    (hknown : ∀ s ∈ op.selectors, s.source.isKnown = true) :
    FailsOnly IsEvaluationFailure (finished evaluator definitions merged op) := by
  refine FailsOnly.bind ?_ fun _ _ => failsOnly_ok _
  generalize Inputs.empty = inputs
  generalize op.selectors = selectors at hknown
  induction selectors generalizing inputs with
  | nil => exact failsOnly_ok _
  | cons s rest ih =>
    obtain ⟨hs, hrest⟩ := List.forall_mem_cons.mp hknown
    rw [Inputs.evaluateAll]
    cases hbinding : s.source.binding with
    | unknown raw => simp [(isKnown_eq_false_iff _).mpr ⟨raw, hbinding⟩] at hs
    | excluded => exact ih inputs hrest
    | _ =>
      simp only [Traced.result_bind, result_evaluate]
      exact (heval _ _).bind fun schema _ => ih _ hrest

/-- The sources of a declared operation are known. -/
lemma isKnown_of_taggedDef {group : String} {op : Operation} {d : OperationDef}
    (h : Document.taggedDef group op = .ok d) : ∀ s ∈ d.selectors, s.source.isKnown = true := by
  obtain ⟨view, hview, h⟩ := bind_eq_ok_iff.mp h
  have hselectors : d.selectors = view.selectors := by
    split at h <;> cases h <;> rfl
  unfold OperationDef.ofOperation at hview
  split at hview
  · cases hview
  · rename_i hnone
    cases hview
    rw [hselectors]
    simpa using List.find?_eq_none.mp hnone

/-- A failure of a document that is none of its evaluator is one of declaring its operations. -/
lemma result_ofSpec_eq_error_iff {evaluator : Evaluator} (heval : IsEvaluatorProper evaluator)
    (spec : ApiSpec) {e : Error} (he : ¬ IsEvaluationFailure e) :
    (Document.ofSpec evaluator spec).result = .error e ↔
      (spec.operations.mapM fun o => Document.taggedDef o.1 o.2) = .error e := by
  rw [Document.result_ofSpec]
  refine bind_eq_error_iff_of_ne fun defs hdefs h => ?_
  have hfinished : ∀ d ∈ defs, FailsOnly IsEvaluationFailure (finished evaluator spec.definitions
      (responsesFor (Document.declarations defs)) d) := fun d hd => by
    obtain ⟨o, _, ho⟩ := exists_of_mem_mapM hdefs hd
    exact failsOnly_finished heval _ _ (isKnown_of_taggedDef ho)
  exact he ((failsOnly_mapM hfinished).bind (fun _ _ => failsOnly_ok _) _ h)

/-- When the operations of a specification cannot be declared, its document is refused before the
evaluator is called. -/
lemma calls_ofSpec_eq_nil {spec : ApiSpec} {e : Error}
    (h : (spec.operations.mapM fun o => Document.taggedDef o.1 o.2) = .error e)
    (evaluator : Evaluator) : (Document.ofSpec evaluator spec).calls = [] := by
  refine Traced.calls_bind_eq_nil (Document.calls_declareAll _ _) fun b hb => ?_
  have hdeclared : (Document.declareAll .empty spec.operations).result = _ :=
    Document.result_declareAll_collected [] spec.operations
  rw [hdeclared, h] at hb
  cases hb

/-! ### Agreement -/

/-- Whatever the options and the evaluator are, the client and the document are refused for an
unknown source exactly when there is one, and both name the first one in the order of groups,
operations and inputs. The document is then refused before the evaluator is called. -/
theorem unknownSource_agree {η : Type} {evaluator : Evaluator}
    (heval : IsEvaluatorProper evaluator) (spec : ApiSpec) (o : Options)
    (field operation source : String) :
    ((compile spec.groups o : Traced η Artifacts).result =
        .error (.unknownSource field operation source) ↔
      spec.IsFirstUnknown field operation source) ∧
    ((Document.ofSpec evaluator spec).result = .error (.unknownSource field operation source) ↔
      spec.IsFirstUnknown field operation source) ∧
    (spec.IsFirstUnknown field operation source → (Document.ofSpec evaluator spec).calls = []) := by
  have hdeclared : (spec.operations.mapM fun o => Document.taggedDef o.1 o.2) =
      .error (.unknownSource field operation source) ↔
        spec.IsFirstUnknown field operation source := by
    rw [← outcome_eq_error_iff, outcome_taggedDefs, ApiSpec.check_declaredInputs_eq_error_iff]
  refine ⟨?_, ?_, fun h => calls_ofSpec_eq_nil (hdeclared.mpr h) evaluator⟩
  · have hother : ¬ IsPlannedFailure (.unknownSource field operation source) := nofun
    rw [result_compile_eq_error_iff spec.groups o hother, ← outcome_eq_error_iff, outcome_ofGroups,
      ApiSpec.check_declaredInputs_eq_error_iff]
  · have hother : ¬ IsEvaluationFailure (.unknownSource field operation source) := nofun
    rw [result_ofSpec_eq_error_iff heval spec hother, hdeclared]

/-- Two groups in which an internal input and one that has to be evaluated stand before the first
unknown source, and another unknown source after it. -/
def cookieSpec : ApiSpec where
  title := "Shop"
  version := "1"
  description := none
  servers := []
  definitions := none
  groups := [
    ("items", [{ Operation.new "listItems" .get "/items" with inputs := [
      ("trace", ⟨.internal, "", true, false⟩), ("limit", ⟨.query, "number", true, false⟩)] }]),
    ("carts", [
      { Operation.new "getCart" .get "/cart" with inputs := [
        ("session", ⟨.other "cookie", "string", true, false⟩)] },
      { Operation.new "dropCart" .delete "/cart" with inputs := [
        ("token", ⟨.other "matrix", "string", true, false⟩)] }])]

/-- An evaluator that refuses every expression. -/
def refusingEvaluator : Evaluator := fun expression _ =>
  ⟨[], .error (.evaluation expression "refused")⟩

theorem unknownSource_of_cookieSpec :
    IsEvaluatorProper refusingEvaluator ∧
    (compile cookieSpec.groups ⟨"crate::failures", []⟩ : Traced HookCall Artifacts).result =
      .error (.unknownSource "session" "getCart" "cookie") ∧
    (Document.ofSpec refusingEvaluator cookieSpec).result =
      .error (.unknownSource "session" "getCart" "cookie") ∧
    (Document.ofSpec refusingEvaluator cookieSpec).calls = [] := by
  have heval : IsEvaluatorProper refusingEvaluator := fun expression _ =>
    failsOnly_error ⟨expression, "refused", rfl⟩
  have hfirst : cookieSpec.IsFirstUnknown "session" "getCart" "cookie" :=
    ⟨[⟨"listItems", "trace", .internal⟩, ⟨"listItems", "limit", .query⟩],
      [⟨"dropCart", "token", .other "matrix"⟩], rfl, by decide⟩
  obtain ⟨hclient, hdocument, hcalls⟩ := unknownSource_agree (η := HookCall) heval cookieSpec
    ⟨"crate::failures", []⟩ "session" "getCart" "cookie"
  exact ⟨heval, hclient.mpr hfirst, hdocument.mpr hfirst, hcalls hfirst⟩

end ApiContract
