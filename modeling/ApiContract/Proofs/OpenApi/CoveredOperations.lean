import ApiContract.Proofs.Client.Artifacts
import ApiContract.Proofs.Client.PlannedEndpoints
import ApiContract.Proofs.OpenApi.DocumentedInputs
import ApiContract.Proofs.OpenApi.SpecDocument

/-!
# Operations that a document covers

A document has one object for each path and method (`objectCount_arranged`), while a client that
compiles has each key once in each of its two tables. The second makes all operations of a
specification have objects of their own exactly if validation compares the keys of operations that
share a path and method (`Client.ComparesPairs`): a stream stands in another table than an operation
that answers once, and an operation all of whose variants are named has no key that is the method
and the path alone. Where the keys are compared, every operation is described by its own object
(`covers_operations`).
-/

namespace ApiContract

open Client PathsBuilder

/-! ### Objects in a document -/

/-- The number of operation objects. -/
def Paths.objectCount (paths : Paths) : Nat := (paths.flatMap fun p => p.2).length

/-- A placed operation has an object of its own, or takes that of an earlier one of its pair. -/
lemma objectCount_placeCall (paths : Paths) (call : HookCall) :
    (placeCall paths call).objectCount =
      if (paths.objectAt? call.path call.method.pathKey).isSome then paths.objectCount
      else paths.objectCount + 1 := by
  induction paths with
  | nil => rfl
  | cons p rest ih =>
    obtain ⟨path, methods⟩ := p
    by_cases hpath : path = call.path
    · have hplaced : placeCall ((path, methods) :: rest) call =
          (path, Table.insert call.method.pathKey call.operation methods) :: rest := by
        simp [placeCall, Table.alter, hpath]
      have hobject : Paths.objectAt? call.path call.method.pathKey ((path, methods) :: rest) =
          methods.find? call.method.pathKey := by simp [Paths.objectAt?, hpath]
      rw [hplaced, hobject]
      simp only [Paths.objectCount, List.flatMap_cons, List.length_append, Table.length_insert]
      split <;> omega
    · have hplaced : placeCall ((path, methods) :: rest) call =
          (path, methods) :: placeCall rest call := by simp [placeCall, Table.alter, hpath]
      have hobject : Paths.objectAt? call.path call.method.pathKey ((path, methods) :: rest) =
          Paths.objectAt? call.path call.method.pathKey rest := by simp [Paths.objectAt?, hpath]
      rw [hplaced, hobject]
      simp only [Paths.objectCount, List.flatMap_cons, List.length_append] at ih ⊢
      rw [ih]
      split <;> omega

lemma isSome_objectAt?_arranged (calls : List HookCall) (path : String) (method : Method) :
    ((arranged calls).objectAt? path method.pathKey).isSome = true ↔
      (path, method) ∈ calls.map HookCall.pair := by
  induction calls using List.reverseRecOn with
  | nil => simp [arranged, Table.groupBy, Paths.objectAt?]
  | append_singleton calls call ih =>
    rw [← placeCall_arranged, objectAt?_placeCall, List.map_append, List.mem_append, ← ih]
    by_cases h : call.pair = (path, method)
    · simp [h]
    · simp [h, Ne.symm h]

/-- A document has one object for each path and method, so each operation has one of its own exactly
when no two share both. -/
theorem objectCount_arranged (calls : List HookCall) :
    (arranged calls).objectCount ≤ calls.length ∧
      ((arranged calls).objectCount = calls.length ↔ (calls.map HookCall.pair).Nodup) := by
  induction calls using List.reverseRecOn with
  | nil => exact ⟨Nat.le_refl _, by simp [arranged, Table.groupBy, Paths.objectCount]⟩
  | append_singleton calls call ih =>
    obtain ⟨hle, hiff⟩ := ih
    have hfound : ((arranged calls).objectAt? call.path call.method.pathKey).isSome = true ↔
        call.pair ∈ calls.map HookCall.pair := isSome_objectAt?_arranged calls _ _
    rw [← placeCall_arranged, objectCount_placeCall, List.length_append, List.map_append,
      List.map_singleton, ← List.concat_eq_append, List.nodup_concat, ← hiff, List.length_singleton]
    split
    · rename_i hsome
      have hmem := hfound.mp hsome
      refine ⟨by omega, ?_⟩
      constructor
      · omega
      · exact fun h => absurd hmem h.1
    · rename_i hnone
      have hnew : call.pair ∉ calls.map HookCall.pair := fun h => hnone (hfound.mpr h)
      refine ⟨by omega, ?_⟩
      simp [hnew]

/-! ### Objects of operations -/

/-- An object that describes one operation of a group: it has the name of the operation and its tags
with the group among them, describes its inputs, and has the responses of its items. -/
structure DescribesOperation (schemaOf : String → Json) (group : String) (op : Operation)
    (object : Json) : Prop where
  operationId : object.member? "operationId" = some (.string op.name)
  tags : object.member? "tags" =
    some (.array ((if group ∈ op.tags then op.tags else group :: op.tags).map .string))
  inputs : ∃ placement, Placement.ofOperation op = .ok placement ∧
    DescribesInputs schemaOf op placement object
  responses : object.member? "responses" =
    if op.responses = [] then none else some (.object (Responses.ofItems op.responses))

/-- An operation of a group as its document sees it when its sources are known. -/
def Document.taggedView (group : String) (op : Operation) : OperationDef :=
  { OperationDef.viewOf op group with
    tags := if group ∈ op.tags then op.tags else group :: op.tags }

lemma Document.taggedDef_of_isKnown {op : Operation}
    (h : ∀ e ∈ op.inputs, e.2.source.isKnown = true) (group : String) :
    Document.taggedDef group op = .ok (Document.taggedView group op) := by
  rw [Document.taggedDef, ofOperation_of_isKnown h, ok_bind]
  by_cases hgroup : group ∈ op.tags <;>
    simp [OperationDef.viewOf, Document.taggedView, hgroup, pure, Except.pure]

section

variable {schemaOf : String → Json}

/-- The description of inputs is one of the parameters and the body of an object. -/
lemma DescribesInputs.congr {op : Operation} {placement : Placement} {object object' : Json}
    (h : DescribesInputs schemaOf op placement object)
    (hparameters : object'.member? "parameters" = object.member? "parameters")
    (hbody : object'.member? "requestBody" = object.member? "requestBody") :
    DescribesInputs schemaOf op placement object' :=
  { h with
    parameters := hparameters.trans h.parameters
    requestBody := hbody.trans h.requestBody }

/-- The object of an operation that is tagged with its group describes it. -/
lemma describesOperation_operationJson {op : Operation} (hinputs : op.inputs.keys.Nodup)
    (hknown : ∀ e ∈ op.inputs, e.2.source.isKnown = true) (group : String) :
    DescribesOperation schemaOf group op (operationJson (Document.taggedView group op)
      (documented schemaOf op.inputs) (Responses.ofItems op.responses)) := by
  refine ⟨rfl, ?_, ?_, ?_⟩
  · have htags : (Document.taggedView group op).tags ≠ [] := by
      by_cases hgroup : group ∈ op.tags
      · simpa [Document.taggedView, hgroup] using List.ne_nil_of_mem hgroup
      · simp [Document.taggedView, hgroup]
    simp only [operationJson, Json.member?, Table.find?_append, memberIfAny,
      List.isEmpty_eq_false_iff.mpr htags]
    rfl
  · refine ⟨_, (Placement.ofInputs_eq_ok_iff _ _ _).mpr ⟨hknown, rfl⟩, ?_⟩
    refine (describesInputs_operationJson hinputs group
      (Responses.ofItems op.responses)).congr ?_ ?_
    · rw [member?_parameters_operationJson, member?_parameters_operationJson]
    · rw [member?_requestBody_operationJson, member?_requestBody_operationJson]
      rfl
  · rw [member?_responses_operationJson]
    simp only [Responses.ofItems_eq_nil_iff]

/-- The inputs of an operation are evaluated to what describes them. -/
lemma result_evaluateAll_selectors {evaluator : Evaluator} {definitions : Option String}
    {op : Operation} (hinputs : op.inputs.keys.Nodup)
    (hknown : ∀ e ∈ op.inputs, e.2.source.isKnown = true)
    (hschemas : ∀ e ∈ op.inputs, e.2.source ≠ .internal →
      (evaluator (Evaluator.prepare e.2.schema) definitions).schema = .ok (schemaOf e.2.schema)) :
    (Inputs.evaluateAll evaluator definitions op.name .empty op.selectors).result =
      .ok (documented schemaOf op.inputs) := by
  rw [← foldl_add_selectors hinputs]
  refine result_evaluateAll (fun s hs => ?_) op.name .empty
  obtain ⟨e, he, rfl⟩ := List.mem_map.mp hs
  obtain ⟨he, hsource⟩ := List.mem_filter.mp he
  exact ⟨hknown e he, hschemas e he (by simpa using hsource)⟩

end

/-! ### Responses of one operation -/

/-- Where the pairs of declared operations are distinct, the responses of a pair are those of its
operation. -/
lemma responsesFor_declarations {defs : List OperationDef}
    (h : (defs.map OperationDef.pair).Nodup) {d : OperationDef} (hd : d ∈ defs) :
    responsesFor (Document.declarations defs) d.pair = Responses.ofItems d.responses := by
  have hone : defs.filter (fun other => other.pair = d.pair) = [d] := by
    have hkeyed : Table.keys (defs.map fun other => (other.pair, other)) =
        defs.map OperationDef.pair := by
      rw [Table.keys, List.map_map]
      rfl
    have hmem : (d.pair, d) ∈ defs.map fun other => (other.pair, other) := List.mem_map_of_mem hd
    have hfilter := Table.filter_of_mem (hkeyed ▸ h) hmem
    rw [List.filter_map] at hfilter
    simpa [Function.comp_def] using congrArg (List.map Prod.snd) hfilter
  rw [responsesFor, itemsFor, Document.declarations, List.filter_map]
  show Responses.ofItems (((defs.filter fun other => other.pair = d.pair).map _).flatMap _) = _
  rw [hone]
  simp [Declaration.items]

/-! ### Covered operations -/

/-- The finished object of an operation of a group when its inputs are evaluated. -/
def Document.finishedCall (schemaOf : String → Json) (merged : String × Method → Responses)
    (o : String × Operation) : HookCall where
  sourceFile := o.1
  method := o.2.method
  path := o.2.path
  operation := operationJson (Document.taggedView o.1 o.2) (documented schemaOf o.2.inputs)
    (merged (pairOf o.2))

/-- The document of operations whose sources are known and whose inputs are evaluated has all of
them in it, as far as their paths and methods are apart. -/
theorem Document.result_ofSpec_of_isKnown {evaluator : Evaluator} {spec : ApiSpec}
    {schemaOf : String → Json}
    (hknown : ∀ o ∈ spec.operations, ∀ e ∈ o.2.inputs, e.2.source.isKnown = true)
    (hinputs : ∀ o ∈ spec.operations, o.2.inputs.keys.Nodup)
    (hschemas : ∀ o ∈ spec.operations, ∀ e ∈ o.2.inputs, e.2.source ≠ .internal →
      (evaluator (Evaluator.prepare e.2.schema) spec.definitions).schema =
        .ok (schemaOf e.2.schema)) :
    (Document.ofSpec evaluator spec).result =
      .ok ⟨spec.title, spec.version, spec.description, spec.servers,
        arranged (spec.operations.map (Document.finishedCall schemaOf
          (responsesFor (Document.declarations
            (spec.operations.map fun o => Document.taggedView o.1 o.2)))))⟩ := by
  have hdeclared : (spec.operations.mapM fun o => Document.taggedDef o.1 o.2) =
      .ok (spec.operations.map fun o => Document.taggedView o.1 o.2) :=
    mapM_eq_ok_of_forall fun o ho => Document.taggedDef_of_isKnown (hknown o ho) o.1
  have hfinished : ∀ merged, (spec.operations.map fun o => Document.taggedView o.1 o.2).mapM
      (finished evaluator spec.definitions merged) =
        .ok (spec.operations.map (Document.finishedCall schemaOf merged)) := by
    intro merged
    rw [List.mapM_map]
    exact mapM_eq_ok_of_forall fun o ho => finished_eq_ok_iff.mpr ⟨_,
      result_evaluateAll_selectors (hinputs o ho) (hknown o ho) (hschemas o ho), rfl⟩
  rw [Document.result_ofSpec, hdeclared, ok_bind, hfinished]
  rfl

/-- Where the pairs of finished operations are distinct, each is found at its own. -/
lemma objectAt?_arranged_of_nodup {calls : List HookCall} (h : (calls.map HookCall.pair).Nodup)
    {call : HookCall} (hcall : call ∈ calls) :
    (arranged calls).objectAt? call.path call.method.pathKey = some call.operation := by
  obtain ⟨before, after, rfl⟩ := List.append_of_mem hcall
  refine objectAt?_arranged before after call fun later hlater heq => ?_
  rw [List.map_append, List.map_cons] at h
  have hnew := (List.nodup_cons.mp h.of_append_right).1
  exact hnew (heq ▸ List.mem_map_of_mem hlater)

/-- The document of a specification whose client compiles has as many operation objects as there are
operations exactly if validation compares the keys of all operations that share a path and method;
then the object at the path and method of each operation describes that operation alone. The names
of the inputs of an operation are the keys of a table that has each key once, and the evaluator
answers for every input that is not internal. -/
theorem covers_operations {η : Type} {evaluator : Evaluator} {spec : ApiSpec} {options : Options}
    {files : Artifacts} {schemaOf : String → Json}
    (hcompile : (compile spec.groups options : Traced η Artifacts).result = .ok files)
    (hinputs : ∀ o ∈ spec.operations, o.2.inputs.keys.Nodup)
    (hschemas : ∀ o ∈ spec.operations, ∀ e ∈ o.2.inputs, e.2.source ≠ .internal →
      (evaluator (Evaluator.prepare e.2.schema) spec.definitions).schema =
        .ok (schemaOf e.2.schema)) :
    ∃ d, (Document.ofSpec evaluator spec).result = .ok d ∧
      d.paths.objectCount ≤ spec.operations.length ∧
      (d.paths.objectCount = spec.operations.length ↔ ComparesPairs spec.operations) ∧
      (ComparesPairs spec.operations → ∀ o ∈ spec.operations, ∃ object,
        d.paths.objectAt? o.2.path o.2.method.pathKey = some object ∧
        DescribesOperation schemaOf o.1 o.2 object) := by
  obtain ⟨es, _, hes, hdistinct, _⟩ := schemas_of_compile hcompile
  obtain ⟨hknown, rfl⟩ := eq_planned_of_ofGroups hes
  have hoperations : (spec.groups.flatMap fun g => g.2.flatMap (Endpoint.planned g.1)) =
      spec.operations.flatMap fun o => Endpoint.planned o.1 o.2 := by
    rw [ApiSpec.operations, List.flatMap_assoc]
    exact List.flatMap_congr fun g _ => by rw [List.flatMap_map]
  rw [hoperations] at hdistinct
  have hsources : ∀ o ∈ spec.operations, ∀ e ∈ o.2.inputs, e.2.source.isKnown = true := by
    intro o ho
    obtain ⟨g, hg, ho⟩ := List.mem_flatMap.mp ho
    obtain ⟨op, hop, rfl⟩ := List.mem_map.mp ho
    exact hknown g hg op hop
  refine ⟨_, Document.result_ofSpec_of_isKnown hsources hinputs hschemas, ?_⟩
  set defs := spec.operations.map fun o => Document.taggedView o.1 o.2 with hdefs
  set calls := spec.operations.map
    (Document.finishedCall schemaOf (responsesFor (Document.declarations defs))) with hcalls
  have hpairs : calls.map HookCall.pair = spec.operations.map fun o => pairOf o.2 := by
    rw [hcalls, List.map_map]
    rfl
  obtain ⟨hle, hcount⟩ := objectCount_arranged calls
  rw [hpairs, nodup_pairs_iff hdistinct] at hcount
  rw [hcalls, List.length_map, ← hcalls] at hle hcount
  refine ⟨hle, hcount, fun hcompares o ho => ?_⟩
  have hnodup := (nodup_pairs_iff hdistinct).mpr hcompares
  have hview : Document.taggedView o.1 o.2 ∈ defs := List.mem_map_of_mem ho
  have hdefsNodup : (defs.map OperationDef.pair).Nodup := by
    rw [hdefs, List.map_map]
    exact hnodup
  have hresponses : responsesFor (Document.declarations defs) (pairOf o.2) =
      Responses.ofItems o.2.responses := responsesFor_declarations hdefsNodup hview
  have hfound := objectAt?_arranged_of_nodup (hpairs ▸ hnodup) (List.mem_map_of_mem ho)
  refine ⟨_, hfound, ?_⟩
  rw [Document.finishedCall, hresponses]
  exact describesOperation_operationJson (hinputs o ho) (hsources o ho) o.1

/-- A specification with nothing but groups. -/
def specOf (groups : Groups) : ApiSpec := ⟨"Shop", "1", none, [], none, groups⟩

/-- The schema of all values, for every expression. -/
def anySchema : String → Json := fun _ => .object []

/-- An evaluator that answers every expression. -/
def anyEvaluator : Evaluator := fun expression _ => ⟨[], .ok (anySchema expression)⟩

/-- Operations of two groups at one path, with a stream and with named variants among them. -/
def shopSpec : ApiSpec := specOf [
  ("items", [
    { Operation.new "list" .get "/items" with
      inputs := [("limit", ⟨.query, "number", false, true⟩),
        ("trace", ⟨.internal, "", true, false⟩)]
      responses := [.new "200", .new "404"] },
    { Operation.new "watch" .get "/items/watch" with kind := .stream },
    { Operation.new "load" .post "/items" with
      inputs := [("rows", ⟨.body, "string", true, false⟩)]
      schemas := [("csv", ""), ("xml", "")] }]),
  ("carts", [{ Operation.new "drop" .delete "/items" with responses := [.new "204"] }])]

theorem covers_shopSpec : ∃ files d,
    (compile shopSpec.groups .standard : Traced HookCall Artifacts).result = .ok files ∧
    (Document.ofSpec anyEvaluator shopSpec).result = .ok d ∧ d.paths.objectCount = 4 ∧
    ∀ o ∈ shopSpec.operations, ∃ object,
      d.paths.objectAt? o.2.path o.2.method.pathKey = some object ∧
      DescribesOperation anySchema o.1 o.2 object := by
  obtain ⟨files, hfiles⟩ : ∃ files,
      (compile shopSpec.groups .standard : Traced HookCall Artifacts).result = .ok files :=
    exists_eq_ok (by decide +kernel)
  have hcompares : ComparesPairs shopSpec.operations := by decide +kernel
  have hschemas : ∀ o ∈ shopSpec.operations, ∀ e ∈ o.2.inputs, e.2.source ≠ .internal →
      (anyEvaluator (Evaluator.prepare e.2.schema) shopSpec.definitions).schema =
        .ok (anySchema e.2.schema) := fun _ _ _ _ _ => rfl
  obtain ⟨d, hd, _, hcount, hcovers⟩ := covers_operations hfiles (by decide) hschemas
  exact ⟨files, d, hfiles, hd, hcount.mpr hcompares, hcovers hcompares⟩

/-- An operation that answers once and a stream, at one path and method. -/
def watchedSpec : ApiSpec := specOf [("items", [
  Operation.new "get" .get "/items",
  { Operation.new "poll" .get "/items" with kind := .stream }])]

/-- Two operations of named variants only, at one path and method. -/
def uploadSpec : ApiSpec := specOf [("items", [
  { Operation.new "rows" .post "/items" with schemas := [("csv", ""), ("tsv", "")] },
  { Operation.new "image" .post "/items" with schemas := [("png", ""), ("gif", "")] }])]

/-- Both specifications compile, and in the document of each the second operation has taken the
place of the first. -/
theorem uncovered_operations :
    (∃ files, (compile watchedSpec.groups .standard : Traced HookCall Artifacts).result =
      .ok files) ∧
    (∃ d, (Document.ofSpec anyEvaluator watchedSpec).result = .ok d ∧
      watchedSpec.operations.length = 2 ∧ d.paths.objectCount = 1 ∧
      (d.paths.objectAt? "/items" "get").bind (Json.member? "operationId") =
        some (.string "poll")) ∧
    (∃ files, (compile uploadSpec.groups .standard : Traced HookCall Artifacts).result =
      .ok files) ∧
    ∃ d, (Document.ofSpec anyEvaluator uploadSpec).result = .ok d ∧
      uploadSpec.operations.length = 2 ∧ d.paths.objectCount = 1 ∧
      (d.paths.objectAt? "/items" "post").bind (Json.member? "operationId") =
        some (.string "image") := by
  refine ⟨exists_eq_ok (by decide +kernel), ⟨_, rfl, rfl, by decide +kernel, rfl⟩,
    exists_eq_ok (by decide +kernel), ⟨_, rfl, rfl, by decide +kernel, rfl⟩⟩

end ApiContract
