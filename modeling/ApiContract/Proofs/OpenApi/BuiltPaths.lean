import ApiContract.OpenApi.Paths
import ApiContract.Proofs.OpenApi.MergedResponses

/-!
# Paths built from declarations

Operations and responses are declared in any order, and a pair of path and method may be declared
again and again. This file says what comes of a run of declarations.

Declaring only collects: after `ds` the builder is `collected ds`, whose responses of a pair are
those of all items declared for it (`result_declareAll`). Building takes the responses of a pair out
of the builder when it meets the pair for the first time and reads them back from the paths when it
meets it again. `Settled` is what makes the two the same: whichever operation comes next, it gets
the responses of its pair. One operation keeps it (`Settled.next`), so that a build is a traversal
that finishes the operations one by one (`result_buildAll`), and what it has placed is grouped by
path and method (`foldl_place`).
-/

namespace ApiContract

/-- The path and the method of an operation. -/
def OperationDef.pair (op : OperationDef) : String × Method := (op.path, op.method)

/-- The path and the method of a finished operation. -/
def HookCall.pair (call : HookCall) : String × Method := (call.path, call.method)

namespace PathsBuilder

/-! ### Declarations -/

/-- A declaration: an operation with its responses, or responses of a path and method. -/
inductive Declaration where
  | operation (op : OperationDef)
  | responses (path : String) (method : Method) (items : List ResponseItem)

namespace Declaration

/-- The path and the method that a declaration is about. -/
def pair : Declaration → String × Method
  | operation op => op.pair
  | responses path method _ => (path, method)

/-- The items that a declaration adds to its pair. -/
def items : Declaration → List ResponseItem
  | operation op => op.responses
  | responses _ _ items => items

/-- The operation that a declaration adds. -/
def operation? : Declaration → Option OperationDef
  | operation op => some op
  | responses _ _ _ => none

end Declaration

/-- A builder with one more declaration. -/
def declare (b : PathsBuilder) : Declaration → Traced HookCall PathsBuilder
  | .operation op => b.addOperation op
  | .responses path method items => b.addResponses path method items

/-- A builder with more declarations, one after another. -/
def declareAll (b : PathsBuilder) : List Declaration → Traced HookCall PathsBuilder
  | [] => return b
  | d :: rest => do
    let b ← b.declare d
    declareAll b rest

/-- The operations of declarations. -/
def operationsOf (ds : List Declaration) : List OperationDef := ds.filterMap Declaration.operation?

/-- The items that declarations add to a path and method. -/
def itemsFor (ds : List Declaration) (pair : String × Method) : List ResponseItem :=
  (ds.filter fun d => d.pair = pair).flatMap Declaration.items

/-- The responses that declarations give to a path and method. -/
def responsesFor (ds : List Declaration) (pair : String × Method) : Responses :=
  Responses.ofItems (itemsFor ds pair)

/-- What declarations come to: their operations, and the responses of every pair they are about. -/
def collected (ds : List Declaration) : PathsBuilder where
  operations := operationsOf ds
  responses := Table.groupBy Declaration.pair
    (fun _ own => Responses.ofItems (own.flatMap Declaration.items)) ds

lemma itemsFor_eq_nil {ds : List Declaration} {pair : String × Method}
    (h : pair ∉ ds.map Declaration.pair) : itemsFor ds pair = [] := by
  have hnone : ds.filter (fun d => d.pair = pair) = [] := by
    rw [List.filter_eq_nil_iff]
    intro d hd hpair
    exact h (List.mem_map.mpr ⟨d, hd, by simpa using hpair⟩)
  rw [itemsFor, hnone, List.flatMap_nil]

lemma find?_collected (ds : List Declaration) (pair : String × Method) :
    (collected ds).responses.find? pair =
      if pair ∈ ds.map Declaration.pair then some (responsesFor ds pair) else none := by
  rw [collected, Table.find?_groupBy]
  rfl

/-- A pair that no declaration is about has no responses, like one whose items are none. -/
lemma getD_find?_collected (ds : List Declaration) (pair : String × Method) :
    ((collected ds).responses.find? pair).getD [] = responsesFor ds pair := by
  rw [find?_collected]
  split
  · rfl
  · rename_i h
    rw [responsesFor, itemsFor_eq_nil h]
    rfl

lemma foldl_merge_ofItems (earlier items : List ResponseItem) :
    items.foldl (fun table item => (Responses.merge item table).2) (Responses.ofItems earlier) =
      Responses.ofItems (earlier ++ items) := by
  rw [Responses.ofItems, Responses.ofItems, List.foldl_append]

/-- Declared responses are merged into those of their pair. -/
lemma result_addResponses_collected (ds : List Declaration) (path : String) (method : Method)
    (items : List ResponseItem) :
    ((collected ds).addResponses path method items).result =
      .ok ⟨operationsOf ds, (collected ds).responses.insert (path, method)
        (Responses.ofItems (itemsFor ds (path, method) ++ items))⟩ := by
  have hbefore : (collected ds).responsesOf path method =
      Responses.ofItems (itemsFor ds (path, method)) := getD_find?_collected ds (path, method)
  simp only [addResponses, Traced.result_bind, Responses.result_mergeAll, ok_bind,
    Traced.result_pure, hbefore, foldl_merge_ofItems]
  rfl

/-- One more declaration is collected with the others. -/
lemma result_declare_collected (ds : List Declaration) (d : Declaration) :
    ((collected ds).declare d).result = .ok (collected (ds ++ [d])) := by
  have hresponses : (collected (ds ++ [d])).responses = (collected ds).responses.insert d.pair
      (Responses.ofItems (itemsFor ds d.pair ++ d.items)) := by
    have hgroup := Table.groupBy_concat Declaration.pair
      (fun _ own => Responses.ofItems (own.flatMap Declaration.items)) ds d
    rw [List.flatMap_append, List.flatMap_singleton] at hgroup
    exact hgroup
  have hoperations : (collected (ds ++ [d])).operations =
      operationsOf ds ++ d.operation?.toList := by
    cases d <;> simp [collected, operationsOf, Declaration.operation?]
  have hall : collected (ds ++ [d]) = ⟨operationsOf ds ++ d.operation?.toList,
      (collected ds).responses.insert d.pair
        (Responses.ofItems (itemsFor ds d.pair ++ d.items))⟩ := by
    rw [← hoperations, ← hresponses]
  rw [hall]
  cases d with
  | operation op =>
    simp only [declare, addOperation, Traced.result_bind, result_addResponses_collected, ok_bind,
      Traced.result_log, Traced.result_pure]
    rfl
  | responses path method items =>
    rw [declare, result_addResponses_collected]
    simp [Declaration.operation?, Declaration.pair, Declaration.items]

lemma result_declareAll_collected (ds more : List Declaration) :
    ((collected ds).declareAll more).result = .ok (collected (ds ++ more)) := by
  induction more generalizing ds with
  | nil =>
    rw [List.append_nil]
    rfl
  | cons d rest ih =>
    rw [declareAll, Traced.result_bind, result_declare_collected, ok_bind, ih]
    simp

/-- Declaring never fails, and only collects. -/
theorem result_declareAll (ds : List Declaration) :
    (declareAll .empty ds).result = .ok (collected ds) :=
  result_declareAll_collected [] ds

/-! ### Finished operations -/

/-- The finished object of an operation whose pair has given responses, as a hook gets to see it. -/
def finished (evaluator : Evaluator) (definitions : Option String)
    (merged : String × Method → Responses) (op : OperationDef) : Except Error HookCall := do
  let inputs ← (Inputs.evaluateAll evaluator definitions op.name .empty op.selectors).result
  return ⟨op.sourceFile, op.method, op.path, operationJson op inputs (merged op.pair)⟩

/-- Paths with a finished operation. -/
def placeCall (paths : Paths) (call : HookCall) : Paths :=
  Table.alter call.path
    (fun methods => Table.insert call.method.pathKey call.operation (methods.getD [])) paths

/-- What becomes of a hook, if there is one, that is shown a finished operation. -/
def HookState.next (hook : Option Hook) (state : HookState) (call : HookCall) : HookState :=
  match hook with
  | none => state
  | some hook => ⟨state.calls ++ [call], state.fragments ++ (hook state.calls call).toList⟩

/-- A build with one more finished operation. -/
def Progress.next (hook : Option Hook) (p : Progress) (call : HookCall) : Progress where
  paths := placeCall p.paths call
  untaken := p.untaken.erase call.pair
  hook := p.hook.next hook call

lemma result_callHook (hook : Option Hook) (state : HookState) (call : HookCall) :
    (callHook hook state call).result = .ok (state.next hook call) := by
  cases hook with
  | none => rfl
  | some hook =>
    simp only [callHook, Traced.result_bind, Traced.result_step, ok_bind, Traced.result_pure,
      HookState.next]
    cases hook state.calls call <;> simp

/-- The operation of a pair that was placed is found there, and other pairs keep theirs. -/
lemma objectAt?_placeCall (paths : Paths) (call : HookCall) (path : String) (method : Method) :
    (placeCall paths call).objectAt? path method.pathKey =
      if call.pair = (path, method) then some call.operation
      else paths.objectAt? path method.pathKey := by
  unfold placeCall Paths.objectAt? HookCall.pair
  rw [Table.find?_alter]
  by_cases hpath : call.path = path
  · subst hpath
    rw [if_pos rfl, Option.bind_some, Table.find?_insert]
    by_cases hmethod : call.method = method
    · subst hmethod
      rw [if_pos rfl, if_pos rfl]
    · have hkey : call.method.pathKey ≠ method.pathKey := fun h =>
        hmethod (Method.pathKey_injective h)
      have hpair : (call.path, call.method) ≠ (call.path, method) := fun h =>
        hmethod (Prod.mk.inj h).2
      rw [if_neg hkey, if_neg hpair]
      cases Table.find? call.path paths <;> rfl
  · have hpair : (call.path, call.method) ≠ (path, method) := fun h => hpath (Prod.mk.inj h).1
    rw [if_neg hpath, if_neg hpair]

/-- The responses of an operation are a member of its object unless there are none. -/
lemma member?_responses_operationJson (op : OperationDef) (inputs : Inputs) (rs : Responses) :
    (operationJson op inputs rs).member? "responses" =
      if rs = [] then none else some (.object rs) := by
  simp only [operationJson, Json.member?, Table.find?_append]
  cases op.tags <;> cases op.description <;> cases op.hasBody <;> cases rs <;> rfl

/-! ### Builds -/

/-- Whatever operation comes next gets the responses of its pair: those that nothing has taken, or
those that stand in the object of an earlier operation of the pair. -/
def Settled (merged : String × Method → Responses) (p : Progress) : Prop :=
  ∀ op : OperationDef, (takeResponses op p).1 = merged op.pair

lemma takeResponses_fst (op : OperationDef) (p : Progress) :
    (takeResponses op p).1 = (p.untaken.find? op.pair).getD (placedResponses op p.paths) := by
  unfold takeResponses OperationDef.pair
  cases p.untaken.find? (op.path, op.method) <;> rfl

lemma takeResponses_snd (op : OperationDef) (p : Progress) :
    (takeResponses op p).2 = p.untaken.erase op.pair := by
  unfold takeResponses
  cases hfind : p.untaken.find? (op.path, op.method) with
  | some responses => rfl
  | none => exact (Table.erase_of_find?_eq_none hfind).symm

/-- Before the first operation, the responses are those that were collected. -/
lemma settled_collected (ds : List Declaration) (state : HookState) :
    Settled (responsesFor ds) ⟨[], (collected ds).responses, state⟩ := by
  intro op
  rw [takeResponses_fst]
  exact getD_find?_collected ds op.pair

section

variable {evaluator : Evaluator} {definitions : Option String}
  {merged : String × Method → Responses}

lemma finished_eq_ok_iff {op : OperationDef} {call : HookCall} :
    finished evaluator definitions merged op = .ok call ↔
      ∃ inputs, (Inputs.evaluateAll evaluator definitions op.name .empty op.selectors).result =
        .ok inputs ∧
      call = ⟨op.sourceFile, op.method, op.path, operationJson op inputs (merged op.pair)⟩ := by
  unfold finished
  rw [bind_eq_ok_iff]
  constructor
  · rintro ⟨inputs, hinputs, h⟩
    cases h
    exact ⟨inputs, hinputs, rfl⟩
  · rintro ⟨inputs, hinputs, rfl⟩
    exact ⟨inputs, hinputs, rfl⟩

lemma pair_of_finished {op : OperationDef} {call : HookCall}
    (h : finished evaluator definitions merged op = .ok call) : call.pair = op.pair := by
  obtain ⟨inputs, _, rfl⟩ := finished_eq_ok_iff.mp h
  rfl

/-- Once an operation is placed, its pair has no responses left to take, and the next operation of
the pair finds them in its object; what the next operation of another pair gets is as before. -/
lemma Settled.next {p : Progress} (hp : Settled merged p) (hook : Option Hook) {op : OperationDef}
    {call : HookCall} (hcall : finished evaluator definitions merged op = .ok call) :
    Settled merged (p.next hook call) := by
  have hpair := pair_of_finished hcall
  obtain ⟨inputs, _, hcall⟩ := finished_eq_ok_iff.mp hcall
  have hobject : call.operation = operationJson op inputs (merged op.pair) := by rw [hcall]
  intro other
  have hbefore := hp other
  rw [takeResponses_fst, placedResponses] at hbefore ⊢
  simp only [Progress.next, Table.find?_erase, objectAt?_placeCall, hpair]
  by_cases hsame : op.pair = other.pair
  · rw [if_pos hsame, if_pos (show op.pair = (other.path, other.method) from hsame),
      Option.getD_none, Option.bind_some, hobject, member?_responses_operationJson, ← hsame]
    by_cases hnone : merged op.pair = []
    · rw [if_pos hnone, hnone]
      rfl
    · rw [if_neg hnone]
      rfl
  · rw [if_neg hsame, if_neg (show op.pair ≠ (other.path, other.method) from hsame)]
    exact hbefore

/-- One operation is finished with the responses of its pair. -/
lemma result_buildOne {hook : Option Hook} {p : Progress} (hp : Settled merged p)
    (op : OperationDef) :
    (buildOne evaluator definitions hook p op).result =
      (finished evaluator definitions merged op >>= fun call => .ok (p.next hook call)) := by
  have htake : takeResponses op p = (merged op.pair, p.untaken.erase op.pair) :=
    Prod.ext (hp op) (takeResponses_snd op p)
  unfold buildOne finished
  simp only [htake, Traced.result_bind, Traced.result_log, ok_bind, result_callHook,
    Traced.result_pure]
  cases (Inputs.evaluateAll evaluator definitions op.name .empty op.selectors).result <;> rfl

/-- A build finishes the operations one by one, each with the responses of its pair. -/
theorem result_buildAll {hook : Option Hook} {p : Progress} (hp : Settled merged p)
    (ops : List OperationDef) :
    (buildAll evaluator definitions hook p ops).result =
      (ops.mapM (finished evaluator definitions merged) >>= fun calls =>
        .ok (calls.foldl (Progress.next hook) p)) := by
  -- The progress changes with every operation, and `Settled.next` keeps what is known of it.
  induction ops generalizing p with
  | nil => rfl
  | cons op rest ih =>
    rw [buildAll, Traced.result_bind, result_buildOne hp, List.mapM_cons]
    cases hcall : finished evaluator definitions merged op with
    | error e => rfl
    | ok call =>
      simp only [ok_bind, ih (hp.next hook hcall)]
      cases rest.mapM (finished evaluator definitions merged) <;> rfl

end

/-! ### The order of paths -/

/-- The object of the operation that was finished last. -/
def lastObject (calls : List HookCall) : Json := (calls.getLast?.map HookCall.operation).getD .null

/-- Finished operations by path and method, each at its first place and with its last object. -/
def arranged (calls : List HookCall) : Paths :=
  Table.groupBy HookCall.path
    (fun _ own => Table.groupBy (fun call => call.method.pathKey) (fun _ => lastObject) own) calls

lemma lastObject_concat (calls : List HookCall) (call : HookCall) :
    lastObject (calls ++ [call]) = call.operation := by
  rw [lastObject, List.getLast?_concat]
  rfl

/-- One more finished operation is placed among the others. -/
lemma placeCall_arranged (calls : List HookCall) (call : HookCall) :
    placeCall (arranged calls) call = arranged (calls ++ [call]) := by
  set own := calls.filter fun c => c.path = call.path with hown
  have hmethods : (Table.find? call.path (arranged calls)).getD [] =
      Table.groupBy (fun call => call.method.pathKey) (fun _ => lastObject) own := by
    rw [arranged, Table.find?_groupBy]
    split
    · rfl
    · rename_i h
      have hnil : own = [] := by
        rw [hown, List.filter_eq_nil_iff]
        intro other hother hsame
        exact h (List.mem_map.mpr ⟨other, hother, by simpa using hsame⟩)
      rw [hnil]
      rfl
  have hstep : arranged (calls ++ [call]) = (arranged calls).insert call.path
      (Table.groupBy (fun call => call.method.pathKey) (fun _ => lastObject) (own ++ [call])) :=
    Table.groupBy_concat _ _ calls call
  rw [placeCall, Table.alter_eq_insert, hmethods, hstep, Table.groupBy_concat, lastObject_concat]

/-- What a build has placed is what it has finished, arranged by path and method. -/
theorem foldl_placeCall (calls : List HookCall) : calls.foldl placeCall [] = arranged calls := by
  induction calls using List.reverseRecOn with
  | nil => rfl
  | append_singleton calls call ih =>
    rw [List.foldl_append, ih, ← placeCall_arranged]
    rfl

lemma paths_foldl_next (hook : Option Hook) (p : Progress) (calls : List HookCall) :
    (calls.foldl (Progress.next hook) p).paths = calls.foldl placeCall p.paths := by
  induction calls generalizing p with
  | nil => rfl
  | cons call rest ih => rw [List.foldl_cons, List.foldl_cons, ih]; rfl

lemma hook_foldl_next (hook : Option Hook) (p : Progress) (calls : List HookCall) :
    (calls.foldl (Progress.next hook) p).hook = calls.foldl (HookState.next hook) p.hook := by
  induction calls generalizing p with
  | nil => rfl
  | cons call rest ih => rw [List.foldl_cons, List.foldl_cons, ih]; rfl

/-- The last operation of a pair is the one that is found there. -/
lemma objectAt?_arranged (before after : List HookCall) (call : HookCall)
    (hlast : ∀ later ∈ after, later.pair ≠ call.pair) :
    (arranged (before ++ call :: after)).objectAt? call.path call.method.pathKey =
      some call.operation := by
  -- From the end, each later operation is of another pair and leaves the object where it is.
  induction after using List.reverseRecOn with
  | nil =>
    rw [← placeCall_arranged, objectAt?_placeCall]
    exact if_pos rfl
  | append_singleton after later ih =>
    have hne : later.pair ≠ (call.path, call.method) := hlast later (by simp)
    have hsplit : before ++ call :: (after ++ [later]) = (before ++ call :: after) ++ [later] := by
      simp
    rw [hsplit, ← placeCall_arranged, objectAt?_placeCall, if_neg hne]
    exact ih fun c hc => hlast c (List.mem_append_left _ hc)

/-- What is built from declarations: the finished operations in their order, and on them what the
hook has returned. -/
theorem result_build_collected (evaluator : Evaluator) (definitions : Option String)
    (hook : Option Hook) (ds : List Declaration) :
    ((collected ds).build evaluator definitions hook).result =
      ((operationsOf ds).mapM (finished evaluator definitions (responsesFor ds)) >>= fun calls =>
        .ok ((calls.foldl (HookState.next hook) ⟨[], []⟩).fragments.foldl overlay
          (arranged calls))) := by
  rw [build, Traced.result_bind, result_buildAll (settled_collected ds _)]
  show ((operationsOf ds).mapM _ >>= _) >>= _ = _
  cases (operationsOf ds).mapM (finished evaluator definitions (responsesFor ds)) with
  | error e => rfl
  | ok calls =>
    simp only [ok_bind, Traced.result_pure, paths_foldl_next, hook_foldl_next, foldl_placeCall]

/-! ### What is built without a hook -/

lemma hook_foldl_next_none (state : HookState) (calls : List HookCall) :
    calls.foldl (HookState.next none) state = state := by
  induction calls with
  | nil => rfl
  | cons call rest ih => exact ih

/-- The paths that declarations come to when no hook is set. -/
def declared (evaluator : Evaluator) (definitions : Option String) (ds : List Declaration) :
    Traced HookCall Paths := do
  let b ← declareAll .empty ds
  b.build evaluator definitions none

lemma result_declared (evaluator : Evaluator) (definitions : Option String)
    (ds : List Declaration) :
    (declared evaluator definitions ds).result =
      ((operationsOf ds).mapM (finished evaluator definitions (responsesFor ds)) >>= fun calls =>
        .ok (arranged calls)) := by
  rw [declared, Traced.result_bind, result_declareAll, ok_bind, result_build_collected]
  simp only [hook_foldl_next_none, List.foldl_nil]

/-- An operation without the responses that it brings along. -/
def withoutResponses (op : OperationDef) : OperationDef := { op with responses := [] }

/-- The finished object of an operation has the responses of its pair, not those that the operation
brings along. -/
lemma finished_withoutResponses (evaluator : Evaluator) (definitions : Option String)
    (merged : String × Method → Responses) (op : OperationDef) :
    finished evaluator definitions merged (withoutResponses op) =
      finished evaluator definitions merged op := rfl

lemma mapM_finished_congr {evaluator : Evaluator} {definitions : Option String}
    {merged merged' : String × Method → Responses} {ops ops' : List OperationDef}
    (hops : ops'.map withoutResponses = ops.map withoutResponses)
    (hmerged : ∀ op ∈ ops, merged' op.pair = merged op.pair) :
    ops'.mapM (finished evaluator definitions merged') =
      ops.mapM (finished evaluator definitions merged) := by
  -- Both lists are the same once their own responses are forgotten, so they are compared there.
  have hforget : ∀ l : List OperationDef, l.mapM (finished evaluator definitions merged') =
      (l.map withoutResponses).mapM (finished evaluator definitions merged') := by
    intro l
    rw [List.mapM_map]
    exact mapM_congr fun op _ => (finished_withoutResponses evaluator definitions merged' op).symm
  rw [hforget ops', hops, ← hforget ops]
  refine mapM_congr fun op hop => ?_
  rw [finished, finished, hmerged op hop]

/-- The object of the last operation of a pair has the responses of that pair. -/
lemma objectAt?_of_mapM_finished {evaluator : Evaluator} {definitions : Option String}
    {merged : String × Method → Responses} {before after : List OperationDef} {op : OperationDef}
    {calls : List HookCall}
    (h : (before ++ op :: after).mapM (finished evaluator definitions merged) = .ok calls)
    (hlast : ∀ later ∈ after, later.pair ≠ op.pair) :
    ∃ inputs, (Inputs.evaluateAll evaluator definitions op.name .empty op.selectors).result =
        .ok inputs ∧
      (arranged calls).objectAt? op.path op.method.pathKey =
        some (operationJson op inputs (merged op.pair)) := by
  rw [List.mapM_append] at h
  obtain ⟨earlier, _, h⟩ := bind_eq_ok_iff.mp h
  obtain ⟨rest, hrest, h⟩ := bind_eq_ok_iff.mp h
  rw [List.mapM_cons] at hrest
  obtain ⟨call, hcall, hrest⟩ := bind_eq_ok_iff.mp hrest
  obtain ⟨later, hlater, hrest⟩ := bind_eq_ok_iff.mp hrest
  cases hrest
  cases h
  have hapart : ∀ c ∈ later, c.pair ≠ call.pair := by
    intro c hc
    obtain ⟨other, hother, hfinished⟩ := exists_of_mem_mapM hlater hc
    rw [pair_of_finished hfinished, pair_of_finished hcall]
    exact hlast other hother
  have hobject := objectAt?_arranged earlier later call hapart
  obtain ⟨inputs, hinputs, rfl⟩ := finished_eq_ok_iff.mp hcall
  exact ⟨inputs, hinputs, hobject⟩

/-- The paths of declarations, when the operations can be evaluated. Paths stand in the order in
which operations first register them, and so do the methods of a path. The object of a path and
method is that of the last operation registered for the pair, with the responses of all items ever
declared for it; items of other pairs have no part in it. -/
theorem built_of_declarations (evaluator : Evaluator) (definitions : Option String)
    (ds : List Declaration) (paths : Paths)
    (h : (declared evaluator definitions ds).result = .ok paths) :
    paths.keys = (((operationsOf ds).map OperationDef.pair).map Prod.fst).eraseDups ∧
    (∀ path methods, Table.find? path paths = some methods →
      methods.keys = ((((operationsOf ds).map OperationDef.pair).filter fun pair =>
        pair.1 = path).map fun pair => pair.2.pathKey).eraseDups) ∧
    (∀ before op after, operationsOf ds = before ++ op :: after →
      (∀ later ∈ after, later.pair ≠ op.pair) →
      ∃ inputs, (Inputs.evaluateAll evaluator definitions op.name .empty op.selectors).result =
          .ok inputs ∧
        paths.objectAt? op.path op.method.pathKey =
          some (operationJson op inputs (Responses.ofItems (itemsFor ds op.pair))) ∧
        (operationJson op inputs (Responses.ofItems (itemsFor ds op.pair))).member? "responses" =
          if itemsFor ds op.pair = [] then none
          else some (.object (Responses.ofItems (itemsFor ds op.pair)))) ∧
    ∀ ds', (operationsOf ds').map withoutResponses = (operationsOf ds).map withoutResponses →
      (∀ op ∈ operationsOf ds, itemsFor ds' op.pair = itemsFor ds op.pair) →
      (declared evaluator definitions ds').result = .ok paths := by
  have hall := h
  rw [result_declared, bind_eq_ok_iff] at hall
  obtain ⟨calls, hcalls, hpaths⟩ := hall
  cases hpaths
  have hpairs : calls.map HookCall.pair = (operationsOf ds).map OperationDef.pair :=
    map_eq_map_of_forall₂ ((mapM_eq_ok_iff _ _ _).mp hcalls) fun _ _ _ h => pair_of_finished h
  refine ⟨?_, ?_, ?_, ?_⟩
  · rw [arranged, Table.keys_groupBy, ← hpairs, List.map_map]
    rfl
  · intro path methods hfind
    rw [arranged, Table.find?_groupBy] at hfind
    split at hfind
    · cases hfind
      rw [Table.keys_groupBy, ← hpairs, List.filter_map, List.map_map]
      rfl
    · cases hfind
  · intro before op after hsplit hlast
    rw [hsplit] at hcalls
    obtain ⟨inputs, hinputs, hobject⟩ := objectAt?_of_mapM_finished hcalls hlast
    refine ⟨inputs, hinputs, hobject, ?_⟩
    rw [member?_responses_operationJson]
    simp only [Responses.ofItems_eq_nil_iff]
  · intro ds' hops hitems
    have hmerged : ∀ op ∈ operationsOf ds, responsesFor ds' op.pair = responsesFor ds op.pair := by
      intro op hop
      rw [responsesFor, responsesFor, hitems op hop]
    rw [result_declared, mapM_finished_congr hops hmerged, ← result_declared]
    exact h

/-- An operation on pets without inputs. -/
def petOperation (name : String) (responses : List ResponseItem) : OperationDef :=
  ⟨name, "/pets", .get, [], responses, [], none, "pets.ts", none⟩

/-- Declarations that register one pair twice, with responses before, between and after, and that
give responses to a pair without an operation. -/
def petDeclarations : List Declaration := [
  .responses "/pets" .get [.new "200"],
  .operation (petOperation "first" [.new "404"]),
  .responses "/stores" .get [.new "200"],
  .operation (petOperation "second" []),
  .responses "/pets" .get [.new "500"]]

theorem built_of_petDeclarations : ∃ paths,
    (declared (fun _ _ => ⟨[], .ok .null⟩) none petDeclarations).result = .ok paths ∧
    paths.keys = ["/pets"] ∧
    paths.objectAt? "/pets" "get" = some (operationJson (petOperation "second" []) .empty
      (Responses.ofItems [.new "200", .new "404", .new "500"])) := by
  obtain ⟨hkeys, _, hentry, _⟩ :=
    built_of_declarations (fun _ _ => ⟨[], .ok .null⟩) none petDeclarations _ rfl
  obtain ⟨inputs, hinputs, hpets, _⟩ :=
    hentry [petOperation "first" [.new "404"]] (petOperation "second" []) [] rfl (by simp)
  cases hinputs
  exact ⟨_, rfl, hkeys, hpets⟩

end PathsBuilder

end ApiContract
