import ApiContract.Client.Registry
import ApiContract.Proofs.Client.Endpoint
import ApiContract.Proofs.Client.MissingParams
import ApiContract.Proofs.OpenApi.CoveredOperations

/-!
# Required inputs

The document says of each parameter and of each member of the body whether it has to be given, as
the input is declared. The client needs every path parameter, declared as required or not. So an
input object that has all that the document requires can miss a path parameter, but only one that is
declared as not required; a request never fails for such an object exactly when all path parameters
are declared as required.
-/

namespace ApiContract

open Client

/-! ### What the document requires -/

/-- The name of a parameter that has to be given. -/
def requiredName? (parameter : Json) : Option String :=
  match parameter.member? "required", parameter.member? "name" with
  | some (.bool true), some (.string name) => some name
  | _, _ => none

/-- The parameters that have to be given by the object of an operation. -/
def requiredParameters (object : Json) : List String :=
  (((object.member? "parameters").bind Json.items?).getD []).filterMap requiredName?

/-- The members of the body that have to be given by the object of an operation, in any content
type. -/
def requiredMembers (object : Json) : List String :=
  let contents := (((object.member? "requestBody").bind (Json.member? "content")).bind
    Json.members?).getD []
  contents.flatMap fun content =>
    ((((content.2.member? "schema").bind (Json.member? "required")).bind Json.items?).getD
      []).filterMap Json.text?

/-- An input object has everything that the object of an operation requires. -/
def MeetsRequired (object : Json) (fields : Table String Json) : Prop :=
  ∀ name ∈ requiredParameters object ++ requiredMembers object, present fields name ≠ none

section

variable {schemaOf : String → Json}

lemma requiredName?_documentedParameter_iff (e : String × InputField) (name : String) :
    (documentedParameter? schemaOf e).bind requiredName? = some name ↔
      e.1 = name ∧ (∃ l, e.2.source.binding = .location l) ∧ e.2.required = true := by
  unfold documentedParameter?
  cases e.2.source.binding with
  | location l => cases e.2.required <;> simp [requiredName?, Json.member?]
  | _ => simp

variable {op : Operation} {object : Json}

/-- The parameters that have to be given are the inputs with a location that are declared as
required. -/
lemma mem_requiredParameters_iff (h : DescribesInputs schemaOf op (.ofBindings op.inputs) object)
    (name : String) :
    name ∈ requiredParameters object ↔ ∃ field, (name, field) ∈ op.inputs ∧
      (∃ l, field.source.binding = .location l) ∧ field.required = true := by
  rw [requiredParameters, h.parameters]
  simp only [Option.bind_some, Json.items?, Option.getD_some, documentedParameters,
    List.filterMap_filterMap, List.mem_filterMap, requiredName?_documentedParameter_iff]
  constructor
  · rintro ⟨e, he, rfl, hrequired⟩
    exact ⟨e.2, he, hrequired⟩
  · rintro ⟨field, hfield, hrequired⟩
    exact ⟨(name, field), hfield, rfl, hrequired⟩

lemma mem_requiredProperties_iff (inputs : Table String InputField) (name : String) :
    name ∈ requiredProperties inputs ↔ ∃ field, (name, field) ∈ inputs ∧
      field.source.binding = .body ∧ field.required = true := by
  simp [requiredProperties]

/-- The members of the body that have to be given are the inputs of the body that are declared as
required. -/
lemma requiredMembers_eq (h : DescribesInputs schemaOf op (.ofBindings op.inputs) object) :
    requiredMembers object = requiredProperties op.inputs := by
  rw [requiredMembers, h.requestBody]
  by_cases hbody : (Placement.ofBindings op.inputs).body = []
  · have hnone : requiredProperties op.inputs = [] := by
      refine List.eq_nil_iff_forall_not_mem.mpr fun name hname => ?_
      obtain ⟨field, hfield, hbinding, _⟩ := (mem_requiredProperties_iff _ _).mp hname
      have hmem : name ∈ namesBound .body op.inputs :=
        mem_namesBound_iff.mpr ⟨field, hfield, hbinding⟩
      have hempty : namesBound .body op.inputs = [] := hbody
      rw [hempty] at hmem
      cases hmem
    rw [if_pos hbody, hnone]
    rfl
  · rw [if_neg hbody]
    by_cases hrequired : requiredProperties op.inputs = []
    · simp [documentedBody, Json.member?, Json.members?, hrequired]
    · simp [documentedBody, Json.member?, Json.members?, Json.items?, hrequired, Json.text?,
        Function.comp_def]

/-- An input object has everything that the document requires when every input that is declared as
required, internal ones apart, is there. -/
lemma meetsRequired_iff (h : DescribesInputs schemaOf op (.ofBindings op.inputs) object)
    (hknown : ∀ e ∈ op.inputs, e.2.source.isKnown = true) (fields : Table String Json) :
    MeetsRequired object fields ↔ ∀ e ∈ op.inputs, e.2.required = true → e.2.source ≠ .internal →
      present fields e.1 ≠ none := by
  have hplaced : ∀ e ∈ op.inputs, e.2.source ≠ .internal →
      (∃ l, e.2.source.binding = .location l) ∨ e.2.source.binding = .body := by
    intro e he hinternal
    have := hknown e he
    cases hsource : e.2.source <;> simp_all [InputSource.binding, InputSource.isKnown]
  simp only [MeetsRequired, List.mem_append, mem_requiredParameters_iff h, requiredMembers_eq h,
    mem_requiredProperties_iff]
  constructor
  · intro hmeets e he hrequired hinternal
    rcases hplaced e he hinternal with hlocation | hbody
    · exact hmeets e.1 (Or.inl ⟨e.2, he, hlocation, hrequired⟩)
    · exact hmeets e.1 (Or.inr ⟨e.2, he, hbody, hrequired⟩)
  · rintro hall name
      (⟨field, hfield, ⟨l, hlocation⟩, hrequired⟩ | ⟨field, hfield, hbody, hrequired⟩)
    · refine hall (name, field) hfield hrequired fun hinternal => ?_
      rw [show field.source = .internal from hinternal] at hlocation
      cases hlocation
    · refine hall (name, field) hfield hrequired fun hinternal => ?_
      rw [show field.source = .internal from hinternal] at hbody
      cases hbody

end

/-! ### What the client requires -/

/-- An input object with a text for every input but one. -/
def givenExcept (name : String) (inputs : Table String InputField) : Table String Json :=
  (inputs.erase name).map fun e => (e.1, .string "given")

lemma present_givenExcept {inputs : Table String InputField} (hinputs : inputs.keys.Nodup)
    (name : String) {e : String × InputField} (he : e ∈ inputs) :
    present (givenExcept name inputs) e.1 =
      if name = e.1 then none else some (.string "given") := by
  have hfound : inputs.find? e.1 = some e.2 := Table.find?_of_mem hinputs he
  rw [present, givenExcept, Table.find?_map_value fun _ : InputField => Json.string "given",
    Table.find?_erase, hfound]
  by_cases hname : name = e.1
  · rw [if_pos hname, if_pos hname]
    rfl
  · rw [if_neg hname, if_neg hname]
    rfl

lemma binding_eq_path_iff (s : InputSource) : s.binding = .location .path ↔ s = .params := by
  cases s <;> simp [InputSource.binding]

/-- The path parameters of a plan of an operation are its inputs from the path. -/
lemma params_requestPlan {group : String} {op : Operation} {es : List Endpoint}
    (hes : Endpoint.ofOperation group op = .ok es) {e : Endpoint} (he : e ∈ es) :
    (requestPlan e).params = namesBound (.location .path) op.inputs := by
  obtain ⟨placement, hplacement, hcases⟩ := Endpoint.exists_of_mem_ofOperation hes he
  obtain ⟨_, rfl⟩ := (Placement.ofInputs_eq_ok_iff _ _ _).mp hplacement
  rcases hcases with ⟨_, tag, _, rfl⟩ | ⟨_, rfl⟩ <;> rfl

/-- A path parameter that is missing, and that the document does not require, is declared as not
required. -/
lemma exists_optional_of_missing {plan : RequestPlan} {inputs : Table String InputField}
    (hparams : plan.params = namesBound (.location .path) inputs) {fields : Table String Json}
    (hgiven : ∀ e ∈ inputs, e.2.required = true → e.2.source ≠ .internal →
      present fields e.1 ≠ none) {context : RequestContext} {name : String}
    (h : plan.build context (.object fields) = .error (.missingPathParam name)) :
    present fields name = none ∧
      ∃ field, (name, field) ∈ inputs ∧ field.source = .params ∧ field.required = false := by
  obtain ⟨hmissing, before, after, hnames, _⟩ := RequestPlan.build_eq_missingPathParam_iff.mp h
  have hmem : name ∈ namesBound (.location .path) inputs := by
    rw [← hparams, hnames]
    simp
  obtain ⟨field, hfield, hbinding⟩ := mem_namesBound_iff.mp hmem
  have hsource : field.source = .params := (binding_eq_path_iff _).mp hbinding
  refine ⟨hmissing, field, hfield, hsource, Bool.eq_false_iff.mpr fun hrequired => ?_⟩
  exact hgiven (name, field) hfield hrequired (by simp [hsource]) hmissing

/-- A path parameter that is not declared as required is missing from the object that has everything
else. -/
lemma build_givenExcept {plan : RequestPlan} {inputs : Table String InputField}
    (hparams : plan.params = namesBound (.location .path) inputs) (hinputs : inputs.keys.Nodup)
    {e : String × InputField} (he : e ∈ inputs) (hsource : e.2.source = .params)
    (context : RequestContext) :
    plan.build context (.object (givenExcept e.1 inputs)) = .error (.missingPathParam e.1) := by
  have hmem : e.1 ∈ namesBound (.location .path) inputs :=
    mem_namesBound_iff.mpr ⟨e.2, he, (binding_eq_path_iff _).mpr hsource⟩
  obtain ⟨before, after, hsplit⟩ := List.append_of_mem hmem
  refine RequestPlan.build_eq_missingPathParam_iff.mpr ⟨?_, before, after, hparams.trans hsplit, ?_⟩
  · rw [present_givenExcept hinputs e.1 he, if_pos rfl]
  · intro n hn
    have hnodup := nodup_namesBound hinputs (.location .path)
    rw [hsplit] at hnodup
    have hne : e.1 ≠ n := fun heq =>
      (List.disjoint_of_nodup_append hnodup) hn (heq ▸ List.mem_cons_self)
    have hbound : n ∈ namesBound (.location .path) inputs := by
      rw [hsplit]
      exact List.mem_append_left _ hn
    obtain ⟨field, hfield, _⟩ := mem_namesBound_iff.mp hbound
    refine ⟨.string "given", "given", ?_, rfl⟩
    rw [present_givenExcept hinputs e.1 hfield, if_neg hne]

/-! ### Both together -/

/-- When an input object has everything that the built object of an operation requires, a request
misses only path parameters that are declared as not required and are not there; it never misses one
exactly when all path parameters are declared as required. The names of the inputs are the keys of a
table that has each key once. -/
theorem missesOnlyOptional_of_endpoints {evaluator : Evaluator} {definitions : Option String}
    {schemaOf : String → Json} {op : Operation} {group : String} {es : List Endpoint}
    (hinputs : op.inputs.keys.Nodup) (hes : Endpoint.ofOperation group op = .ok es)
    (hschemas : ∀ e ∈ op.inputs, e.2.source ≠ .internal →
      (evaluator (Evaluator.prepare e.2.schema) definitions).schema = .ok (schemaOf e.2.schema))
    (sourceFile : String) :
    ∃ d, OperationDef.ofOperation op sourceFile = .ok d ∧
      ∀ (hook : Option Hook) (p : PathsBuilder.Progress), ∃ next object,
        (PathsBuilder.buildOne evaluator definitions hook p d).result = .ok next ∧
        next.paths.objectAt? op.path op.method.pathKey = some object ∧
        ∀ e ∈ es, ∀ context,
          (∀ fields name, MeetsRequired object fields →
            (requestPlan e).build context (.object fields) = .error (.missingPathParam name) →
            present fields name = none ∧
              ∃ field, (name, field) ∈ op.inputs ∧ field.source = .params ∧
                field.required = false) ∧
          ((∀ fields name, MeetsRequired object fields →
            (requestPlan e).build context (.object fields) ≠ .error (.missingPathParam name)) ↔
              ∀ i ∈ op.inputs, i.2.source = .params → i.2.required = true) := by
  have hknown : ∀ e ∈ op.inputs, e.2.source.isKnown = true := by
    obtain ⟨placement, hplacement, _⟩ := bind_eq_ok_iff.mp hes
    exact ((Placement.ofInputs_eq_ok_iff _ _ _).mp hplacement).1
  have hevaluated := result_evaluateAll_selectors hinputs hknown hschemas
  refine ⟨.viewOf op sourceFile, ofOperation_of_isKnown hknown sourceFile, fun hook p => ?_⟩
  obtain ⟨next, hnext, hobject⟩ :=
    PathsBuilder.exists_of_buildOne (d := .viewOf op sourceFile) hevaluated hook p
  refine ⟨next, _, hnext, hobject, fun e he context => ?_⟩
  have hdescribes : DescribesInputs schemaOf op (.ofBindings op.inputs) _ :=
    describesInputs_operationJson hinputs sourceFile
      (PathsBuilder.takeResponses (.viewOf op sourceFile) p).1
  have hmeets := meetsRequired_iff hdescribes hknown
  have hparams := params_requestPlan hes he
  refine ⟨fun fields name hgiven h => ?_, fun hnever i hi hsource => ?_,
    fun hall fields name hgiven h => ?_⟩
  · exact exists_optional_of_missing hparams ((hmeets fields).mp hgiven) h
  · by_contra hoptional
    -- The object without this parameter has everything that is required.
    have hgiven : ∀ e ∈ op.inputs, e.2.required = true → e.2.source ≠ .internal →
        present (givenExcept i.1 op.inputs) e.1 ≠ none := by
      intro e he hrequired _
      have hne : i.1 ≠ e.1 := fun heq => by
        have hsame : i = e := List.inj_on_of_nodup_map hinputs hi he heq
        exact hoptional (hsame ▸ hrequired)
      rw [present_givenExcept hinputs i.1 he, if_neg hne]
      exact nofun
    exact hnever _ _ ((hmeets _).mpr hgiven) (build_givenExcept hparams hinputs hi hsource context)
  · obtain ⟨_, field, hfield, hsource, hoptional⟩ :=
      exists_optional_of_missing hparams ((hmeets fields).mp hgiven) h
    have hrequired := hall (name, field) hfield hsource
    rw [hoptional] at hrequired
    cases hrequired

/-- An operation with a required path parameter, a required member of the body and an optional
header. -/
def movePet : Operation :=
  { Operation.new "movePet" .put "/pets/{id}" with
    inputs := [("id", ⟨.params, "z.string()", true, false⟩),
      ("shelf", ⟨.body, "z.number()", true, false⟩),
      ("note", ⟨.headers, "z.string()", false, true⟩)] }

theorem neverMisses_movePet :
    ∃ d e next object, OperationDef.ofOperation movePet "pets" = .ok d ∧
      Endpoint.ofOperation "pets" movePet = .ok [e] ∧
      (PathsBuilder.buildOne anyEvaluator none none ⟨[], [], ⟨[], []⟩⟩ d).result = .ok next ∧
      next.paths.objectAt? "/pets/{id}" "put" = some object ∧
      ∀ context fields name, MeetsRequired object fields →
        (requestPlan e).build context (.object fields) ≠ .error (.missingPathParam name) := by
  have hes : Endpoint.ofOperation "pets" movePet =
      .ok [.ofSingle "pets" movePet (.ofBindings movePet.inputs)] := rfl
  have hschemas : ∀ e ∈ movePet.inputs, e.2.source ≠ .internal →
      (anyEvaluator (Evaluator.prepare e.2.schema) none).schema = .ok (anySchema e.2.schema) :=
    fun _ _ _ => rfl
  obtain ⟨d, hd, hbuilt⟩ := missesOnlyOptional_of_endpoints (by decide) hes hschemas "pets"
  obtain ⟨next, object, hnext, hobject, hplans⟩ := hbuilt none ⟨[], [], ⟨[], []⟩⟩
  refine ⟨d, _, next, object, hd, hes, hnext, hobject, fun context => ?_⟩
  exact (hplans _ (List.mem_singleton_self _) context).2.mpr (by decide)

/-- An operation with a path parameter that is declared as not required. -/
def findPet : Operation :=
  { Operation.new "findPet" .get "/pets/{id}" with
    inputs := [("id", ⟨.params, "z.string()", false, false⟩)] }

/-- The document requires nothing of an input, and without the parameter there is no request. -/
theorem misses_findPet :
    findPet.inputs.keys.Nodup ∧
    ∃ d e next object, OperationDef.ofOperation findPet "pets" = .ok d ∧
      Endpoint.ofOperation "pets" findPet = .ok [e] ∧
      (PathsBuilder.buildOne anyEvaluator none none ⟨[], [], ⟨[], []⟩⟩ d).result = .ok next ∧
      next.paths.objectAt? "/pets/{id}" "get" = some object ∧ MeetsRequired object [] ∧
      (requestPlan e).build ⟨"https://pets", []⟩ (.object []) =
        .error (.missingPathParam "id") := by
  refine ⟨by decide, _, _, _, _, rfl, rfl, rfl, rfl, ?_, rfl⟩
  exact nofun

end ApiContract
