import ApiContract.Proofs.Client.Placement
import ApiContract.Proofs.OpenApi.BuiltPaths

/-!
# Inputs in the document

The document and the client sort the inputs of an operation apart from each other: the builder of
paths goes through the inputs that are not internal and adds each to the parameters or to the body,
while a placement goes through all inputs. What the builder has after some inputs can be said input
by input (`documented`), and one more input adds to it what the builder adds (`documented_concat`).
So the object of an operation describes the inputs as they are placed
(`describesInputs_of_placement`).
-/

namespace ApiContract

open Client

/-! ### The description of inputs -/

section Description

variable (schemaOf : String → Json)

/-- The schema of an input, given the schemas of expressions. -/
def documentedSchema (field : InputField) : Json :=
  if field.nullable then
    .object [("anyOf", .array [schemaOf field.schema, .object [("type", .string "null")]])]
  else schemaOf field.schema

/-- The parameter that an input is, if it is bound to a location. -/
def documentedParameter? (e : String × InputField) : Option Json :=
  match e.2.source.binding with
  | .location l => some (.object [
      ("in", .string l.name), ("name", .string e.1), ("required", .bool e.2.required),
      ("schema", documentedSchema schemaOf e.2)])
  | _ => none

/-- The parameters of inputs, in order of declaration. -/
def documentedParameters (inputs : Table String InputField) : List Json :=
  inputs.filterMap (documentedParameter? schemaOf)

/-- The properties of the body, in order of declaration. -/
def documentedProperties (inputs : Table String InputField) : Table String Json :=
  (inputs.filter fun e => e.2.source.binding = .body).map fun e =>
    (e.1, documentedSchema schemaOf e.2)

/-- The names of the inputs of the body that have to be given. -/
def requiredProperties (inputs : Table String InputField) : List String :=
  (inputs.filter fun e => e.2.source.binding = .body ∧ e.2.required = true).map Prod.fst

/-- The object of a request body. -/
def documentedBody (contentType : String) (inputs : Table String InputField) : Json :=
  let properties := documentedProperties schemaOf inputs
  let required := requiredProperties inputs
  .object [
    ("required", .bool (decide (required ≠ []))),
    ("content", .object [(contentType, .object [("schema", .object (
      [("type", .string "object"), ("properties", .object properties)] ++
        if required = [] then [] else [("required", .array (required.map .string))]))])])]

/-- The name of a parameter of a location. -/
def parameterName? (l : Location) (parameter : Json) : Option String :=
  match parameter.member? "in", parameter.member? "name" with
  | some (.string location), some (.string name) => if location = l.name then some name else none
  | _, _ => none

/-- The names of the parameters of a location, in order. -/
def parameterNames (l : Location) (parameters : List Json) : List String :=
  parameters.filterMap (parameterName? l)

/-- The object of an operation describes the inputs as they are placed: the parameters are those
bound to a location, there is a body when inputs are placed in it, and an internal input is in
neither. -/
structure DescribesInputs (op : Operation) (placement : Placement) (object : Json) : Prop where
  parameters : object.member? "parameters" =
    some (.array (documentedParameters schemaOf op.inputs))
  query : parameterNames .query (documentedParameters schemaOf op.inputs) = placement.query
  path : parameterNames .path (documentedParameters schemaOf op.inputs) = placement.params
  header : parameterNames .header (documentedParameters schemaOf op.inputs) = placement.headers
  requestBody : object.member? "requestBody" =
    if placement.body = [] then none
    else some (documentedBody schemaOf (op.contentType.getD "application/json") op.inputs)
  properties : (documentedProperties schemaOf op.inputs).keys = placement.body
  internal : ∀ e ∈ op.inputs, e.2.source = .internal →
    (∀ l, e.1 ∉ parameterNames l (documentedParameters schemaOf op.inputs)) ∧
      e.1 ∉ (documentedProperties schemaOf op.inputs).keys

end Description

variable {schemaOf : String → Json}

/-! ### Names in the description -/

lemma Location.name_inj {l l' : Location} (h : l.name = l'.name) : l = l' := by
  cases l <;> cases l' <;> first | rfl | exact absurd h (by decide)

lemma parameterName?_documentedParameter (l : Location) (e : String × InputField) :
    (documentedParameter? schemaOf e).bind (parameterName? l) =
      if e.2.source.binding = .location l then some e.1 else none := by
  unfold documentedParameter?
  cases e.2.source.binding with
  | location l' =>
    by_cases h : l' = l
    · subst h
      simp [parameterName?, Json.member?]
    · have hname : l'.name ≠ l.name := fun hn => h (Location.name_inj hn)
      simp [parameterName?, Json.member?, h, hname]
  | _ => simp

/-- The parameters of a location are the inputs bound to it. -/
lemma parameterNames_documentedParameters (l : Location) (inputs : Table String InputField) :
    parameterNames l (documentedParameters schemaOf inputs) = namesBound (.location l) inputs := by
  induction inputs with
  | nil => rfl
  | cons e rest ih =>
    rw [parameterNames, documentedParameters, List.filterMap_filterMap] at ih ⊢
    rw [namesBound_cons, ← ih, List.filterMap_cons, parameterName?_documentedParameter]
    by_cases h : e.2.source.binding = .location l <;> simp [h]

/-- The properties of the body are the inputs bound to it. -/
lemma keys_documentedProperties (inputs : Table String InputField) :
    (documentedProperties schemaOf inputs).keys = namesBound .body inputs := by
  rw [documentedProperties, Table.keys, List.map_map]
  rfl

/-! ### Evaluated inputs -/

/-- The inputs as the builder has them when they are evaluated. -/
def documented (schemaOf : String → Json) (inputs : Table String InputField) : Inputs :=
  ⟨documentedParameters schemaOf inputs, documentedProperties schemaOf inputs,
    requiredProperties inputs⟩

/-- An input is added to the evaluated inputs with its schema as it is documented. -/
lemma add_ofField (inputs : Inputs) (name : String) (field : InputField) :
    inputs.add (Selector.ofField name field) (schemaOf field.schema) =
      match field.source.binding with
      | .location l => { inputs with
          parameters := inputs.parameters ++ [Inputs.parameterJson l (Selector.ofField name field)
            (documentedSchema schemaOf field)] }
      | .body => { inputs with
          properties := inputs.properties.insert name (documentedSchema schemaOf field)
          required := if field.required then inputs.required ++ [name] else inputs.required }
      | .excluded | .unknown _ => inputs := rfl

/-- One more input adds to the description what it adds to the evaluated inputs. -/
lemma documented_concat {inputs : Table String InputField} {e : String × InputField}
    (hnew : e.1 ∉ inputs.keys) :
    documented schemaOf (inputs ++ [e]) =
      (documented schemaOf inputs).add (Selector.ofField e.1 e.2) (schemaOf e.2.schema) := by
  have hproperty : e.1 ∉ (documentedProperties schemaOf inputs).keys := by
    rw [keys_documentedProperties]
    intro hmem
    obtain ⟨field, hfield, _⟩ := mem_namesBound_iff.mp hmem
    exact hnew (List.mem_map.mpr ⟨_, hfield, rfl⟩)
  obtain ⟨name, field⟩ := e
  rw [add_ofField, documented, documented, Table.insert_of_not_mem hproperty]
  cases hbinding : field.source.binding with
  | body =>
    by_cases hrequired : field.required = true <;>
      simp [documentedParameters, documentedProperties, requiredProperties, documentedParameter?,
        hbinding, hrequired]
  | _ =>
    simp [documentedParameters, documentedProperties, requiredProperties, documentedParameter?,
      Inputs.parameterJson, Selector.ofField, hbinding]

/-- The builder describes inputs with distinct names. -/
lemma foldl_add_selectors {op : Operation} (hinputs : op.inputs.keys.Nodup) :
    op.selectors.foldl (fun inputs s => inputs.add s (schemaOf s.expression)) .empty =
      documented schemaOf op.inputs := by
  unfold Operation.selectors
  generalize op.inputs = entries at hinputs
  induction entries using List.reverseRecOn with
  | nil => rfl
  | append_singleton entries e ih =>
    rw [Table.keys, List.map_append, List.map_singleton, ← List.concat_eq_append,
      List.nodup_concat] at hinputs
    rw [documented_concat hinputs.1, ← ih hinputs.2, List.filter_append, List.map_append,
      List.foldl_append]
    by_cases hinternal : e.2.source = .internal
    -- An internal input is left out of the selectors, and adding it would change nothing.
    · simp [hinternal, Inputs.add, Selector.ofField, InputSource.binding]
    · simp [hinternal, Selector.ofField]

lemma result_evaluate (evaluator : Evaluator) (definitions : Option String) (expression : String) :
    (Inputs.evaluate evaluator definitions expression).result =
      (evaluator (Evaluator.prepare expression) definitions).schema := by
  simp [Inputs.evaluate]

/-- Inputs of known sources are evaluated when their expressions are, and then added one after
another. -/
lemma result_evaluateAll {evaluator : Evaluator} {definitions : Option String}
    {selectors : List Selector}
    (h : ∀ s ∈ selectors, s.source.isKnown = true ∧
      (evaluator (Evaluator.prepare s.expression) definitions).schema =
        .ok (schemaOf s.expression))
    (operation : String) (inputs : Inputs) :
    (Inputs.evaluateAll evaluator definitions operation inputs selectors).result =
      .ok (selectors.foldl (fun inputs s => inputs.add s (schemaOf s.expression)) inputs) := by
  induction selectors generalizing inputs with
  | nil => rfl
  | cons s rest ih =>
    obtain ⟨⟨hknown, hschema⟩, hrest⟩ := List.forall_mem_cons.mp h
    rw [Inputs.evaluateAll, List.foldl_cons]
    cases hbinding : s.source.binding with
    | unknown raw => simp [(isKnown_eq_false_iff _).mpr ⟨raw, hbinding⟩] at hknown
    | excluded =>
      have hadd : inputs.add s (schemaOf s.expression) = inputs := by simp [Inputs.add, hbinding]
      rw [hadd]
      exact ih hrest inputs
    | _ =>
      simp only [Traced.result_bind, result_evaluate, hschema, ok_bind]
      exact ih hrest _

/-! ### Objects of operations -/

/-- The parameters are a member of the object of an operation. -/
lemma member?_parameters_operationJson (op : OperationDef) (inputs : Inputs) (rs : Responses) :
    (operationJson op inputs rs).member? "parameters" = some (.array inputs.parameters) := by
  simp only [operationJson, Json.member?, Table.find?_append]
  cases op.tags <;> cases op.description <;> rfl

/-- The request body is a member of the object of an operation when the operation has one. -/
lemma member?_requestBody_operationJson (op : OperationDef) (inputs : Inputs) (rs : Responses) :
    (operationJson op inputs rs).member? "requestBody" =
      if op.hasBody then some (requestBodyJson (op.contentType.getD jsonContentType) inputs)
      else none := by
  simp only [operationJson, Json.member?, Table.find?_append]
  cases op.tags <;> cases op.description <;> cases op.hasBody <;> cases rs <;> rfl

lemma requestBodyJson_documented (contentType : String) (inputs : Table String InputField) :
    requestBodyJson contentType (documented schemaOf inputs) =
      documentedBody schemaOf contentType inputs := by
  unfold requestBodyJson documentedBody documented memberIfAny stringList
  cases requiredProperties inputs <;> rfl

/-- An operation has a body when inputs are placed in it. -/
lemma any_selectors_body_iff (op : Operation) :
    (op.selectors.any fun s => s.source == .body) = true ↔ namesBound .body op.inputs ≠ [] := by
  simp only [List.any_eq_true, beq_iff_eq, Operation.selectors, List.mem_map, List.mem_filter]
  constructor
  · rintro ⟨_, ⟨e, ⟨he, _⟩, rfl⟩, hbody⟩
    have hmem : e.1 ∈ namesBound .body op.inputs :=
      mem_namesBound_iff.mpr ⟨e.2, he, (binding_eq_body_iff _).mpr hbody⟩
    exact List.ne_nil_of_mem hmem
  · intro hne
    obtain ⟨name, hname⟩ := List.exists_mem_of_ne_nil _ hne
    obtain ⟨field, hfield, hbody⟩ := mem_namesBound_iff.mp hname
    have hsource := (binding_eq_body_iff _).mp hbody
    exact ⟨_, ⟨_, ⟨hfield, by simp [hsource]⟩, rfl⟩, hsource⟩

/-- An internal input shares its name with no input of another binding. -/
lemma not_mem_namesBound_of_internal {inputs : Table String InputField} (h : inputs.keys.Nodup)
    {e : String × InputField} (he : e ∈ inputs) (hinternal : e.2.source = .internal)
    {binding : Binding} (hbinding : binding ≠ .excluded) : e.1 ∉ namesBound binding inputs := by
  intro hmem
  obtain ⟨field, hfield, hbound⟩ := mem_namesBound_iff.mp hmem
  have hsame : (e.1, field) = e := List.inj_on_of_nodup_map h hfield he rfl
  have hexcluded : field.source.binding = .excluded := by
    rw [← hsame] at hinternal
    rw [hinternal]
    rfl
  exact hbinding (hbound.symm.trans hexcluded)

/-- An operation as the document sees it when its sources are known. -/
def OperationDef.viewOf (op : Operation) (sourceFile : String) : OperationDef :=
  ⟨op.name, op.path, op.method, op.selectors, op.responses, op.tags, op.description, sourceFile,
    op.contentType⟩

lemma ofOperation_of_isKnown {op : Operation} (h : ∀ e ∈ op.inputs, e.2.source.isKnown = true)
    (sourceFile : String) :
    OperationDef.ofOperation op sourceFile = .ok (.viewOf op sourceFile) := by
  have hnone : (op.selectors.find? fun s => !s.source.isKnown) = none := by
    rw [List.find?_eq_none]
    intro s hs
    obtain ⟨e, he, rfl⟩ := List.mem_map.mp hs
    simp [Selector.ofField, h e (List.mem_of_mem_filter he)]
  rw [OperationDef.ofOperation, hnone]
  rfl

/-- The object of an operation with these inputs describes them, whatever the responses are. -/
lemma describesInputs_operationJson {op : Operation} (hinputs : op.inputs.keys.Nodup)
    (sourceFile : String) (rs : Responses) :
    DescribesInputs schemaOf op (Placement.ofBindings op.inputs)
      (operationJson (.viewOf op sourceFile) (documented schemaOf op.inputs) rs) := by
  refine ⟨member?_parameters_operationJson _ _ _, parameterNames_documentedParameters _ _,
    parameterNames_documentedParameters _ _, parameterNames_documentedParameters _ _, ?_,
    keys_documentedProperties _, fun e he hinternal => ⟨fun l => ?_, ?_⟩⟩
  · rw [member?_requestBody_operationJson, requestBodyJson_documented, OperationDef.hasBody,
      show (OperationDef.viewOf op sourceFile).selectors = op.selectors from rfl,
      show (Placement.ofBindings op.inputs).body = namesBound .body op.inputs from rfl]
    by_cases hbody : namesBound .body op.inputs = []
    · rw [if_neg (by simpa using (any_selectors_body_iff op).not.mpr (not_not.mpr hbody)),
        if_pos hbody]
    · rw [if_pos ((any_selectors_body_iff op).mpr hbody), if_neg hbody]
      rfl
  · rw [parameterNames_documentedParameters]
    exact not_mem_namesBound_of_internal hinputs he hinternal nofun
  · rw [keys_documentedProperties]
    exact not_mem_namesBound_of_internal hinputs he hinternal nofun

/-- An operation whose inputs are evaluated has its object placed at its path and method. -/
lemma PathsBuilder.exists_of_buildOne {evaluator : Evaluator} {definitions : Option String}
    {d : OperationDef} {inputs : Inputs}
    (h : (Inputs.evaluateAll evaluator definitions d.name .empty d.selectors).result = .ok inputs)
    (hook : Option Hook) (p : Progress) :
    ∃ next, (buildOne evaluator definitions hook p d).result = .ok next ∧
      next.paths.objectAt? d.path d.method.pathKey =
        some (operationJson d inputs (takeResponses d p).1) := by
  set object := operationJson d inputs (takeResponses d p).1 with hobject
  set call : HookCall := ⟨d.sourceFile, d.method, d.path, object⟩ with hcall
  refine ⟨⟨placeCall p.paths call, (takeResponses d p).2, p.hook.next hook call⟩, ?_, ?_⟩
  · unfold buildOne
    simp only [Traced.result_bind, Traced.result_log, ok_bind, result_callHook,
      Traced.result_pure, h]
    rfl
  · rw [objectAt?_placeCall, if_pos (show call.pair = (d.path, d.method) from rfl)]

/-- The document and the client place the inputs of an operation alike, whatever has been built
before and whatever the hook answers. The names of the inputs are the keys of a table that has each
key once. -/
theorem describesInputs_of_placement {evaluator : Evaluator} {definitions : Option String}
    {op : Operation} {placement : Placement} (hinputs : op.inputs.keys.Nodup)
    (hplacement : Placement.ofOperation op = .ok placement)
    (hschemas : ∀ e ∈ op.inputs, e.2.source ≠ .internal →
      (evaluator (Evaluator.prepare e.2.schema) definitions).schema = .ok (schemaOf e.2.schema))
    (sourceFile : String) :
    ∃ d, OperationDef.ofOperation op sourceFile = .ok d ∧
      ∀ (hook : Option Hook) (p : PathsBuilder.Progress), ∃ next object,
        (PathsBuilder.buildOne evaluator definitions hook p d).result = .ok next ∧
        next.paths.objectAt? op.path op.method.pathKey = some object ∧
        DescribesInputs schemaOf op placement object := by
  obtain ⟨hknown, rfl⟩ := (Placement.ofInputs_eq_ok_iff _ _ _).mp hplacement
  have hselectors : ∀ s ∈ op.selectors, s.source.isKnown = true ∧
      (evaluator (Evaluator.prepare s.expression) definitions).schema =
        .ok (schemaOf s.expression) := by
    intro s hs
    obtain ⟨e, he, rfl⟩ := List.mem_map.mp hs
    obtain ⟨he, hsource⟩ := List.mem_filter.mp he
    exact ⟨hknown e he, hschemas e he (by simpa using hsource)⟩
  have hevaluated := result_evaluateAll hselectors op.name .empty
  rw [foldl_add_selectors hinputs] at hevaluated
  refine ⟨.viewOf op sourceFile, ofOperation_of_isKnown hknown sourceFile, fun hook p => ?_⟩
  obtain ⟨next, hnext, hobject⟩ :=
    PathsBuilder.exists_of_buildOne (d := .viewOf op sourceFile) hevaluated hook p
  exact ⟨next, _, hnext, hobject, describesInputs_operationJson hinputs sourceFile _⟩

/-- An operation with inputs of every known source, in and out of the body by turns. -/
def updatePet : Operation :=
  { Operation.new "updatePet" .put "/pets/{id}" with
    inputs := [
      ("name", ⟨.body, "z.string()", true, false⟩), ("page", ⟨.query, "z.number()", false, true⟩),
      ("session", ⟨.internal, "z.any()", true, false⟩),
      ("trace", ⟨.headers, "z.uuid()", true, false⟩),
      ("photo", ⟨.body, "z.string().optional()", false, true⟩),
      ("id", ⟨.params, "z.string()", true, false⟩),
      ("tags", ⟨.queries, "z.array()", true, false⟩)] }

/-- An evaluator whose schemas hold the expressions, except that of internal inputs. -/
def quoteEvaluator : Evaluator := fun expression _ =>
  ⟨[], if expression == "z.any()" then .error (.evaluation expression "rejected")
    else .ok (.object [("expression", .string expression)])⟩

theorem describesInputs_updatePet :
    ∃ d, OperationDef.ofOperation updatePet "pets.ts" = .ok d ∧
      ∀ (hook : Option Hook) (p : PathsBuilder.Progress), ∃ next object,
        (PathsBuilder.buildOne quoteEvaluator none hook p d).result = .ok next ∧
        next.paths.objectAt? "/pets/{id}" "put" = some object ∧
        DescribesInputs (fun e => .object [("expression", .string (Evaluator.prepare e))]) updatePet
          ⟨["trace"], ["page", "tags"], ["name", "photo"], ["id"]⟩ object := by
  have haccepted : ∀ e ∈ updatePet.inputs, e.2.source ≠ .internal →
      Evaluator.prepare e.2.schema ≠ "z.any()" := by
    decide +kernel
  refine describesInputs_of_placement (by decide) rfl (fun e he hsource => ?_) "pets.ts"
  simp [quoteEvaluator, haccepted e he hsource]

end ApiContract
