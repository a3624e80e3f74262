import ApiContract.OpenApi.Document
import ApiContract.Proofs.OpenApi.BuiltPaths
import ApiContract.Proofs.Trace

/-!
# Documents of specifications

The document of a specification is made in two passes: all operations are declared, and only then
are their inputs evaluated. The first pass gives the operations as the document sees them and makes
no call of the evaluator (`result_declareAll_collected`, `calls_declareAll`); the second one
finishes each of them with the responses declared for its path and method (`result_ofSpec`).
-/

namespace ApiContract

open PathsBuilder

/-! ### Calls of the evaluator -/

lemma Responses.calls_mergeAll {η : Type} (table : Responses) (items : List ResponseItem) :
    (Responses.mergeAll table items : Traced η Responses).calls = [] := by
  induction items generalizing table with
  | nil => rfl
  | cons item rest ih => exact Traced.calls_bind_eq_nil (Traced.calls_logAll _) fun _ _ => ih _

/-- Declaring an operation calls the evaluator nowhere. -/
lemma PathsBuilder.calls_addOperation (b : PathsBuilder) (op : OperationDef) :
    (b.addOperation op).calls = [] := by
  refine Traced.calls_bind_eq_nil ?_ fun _ _ => Traced.calls_bind_eq_nil rfl fun _ _ => rfl
  exact Traced.calls_bind_eq_nil (Responses.calls_mergeAll _ _) fun _ _ => rfl

namespace Document

/-! ### Declared operations -/

/-- Declaring the operations of a specification calls the evaluator nowhere, whether it fails or
not. -/
lemma calls_declareAll (b : PathsBuilder) (ops : List (String × Operation)) :
    (declareAll b ops).calls = [] := by
  induction ops generalizing b with
  | nil => rfl
  | cons o rest ih =>
    refine Traced.calls_bind_eq_nil rfl fun d _ => ?_
    exact Traced.calls_bind_eq_nil (b.calls_addOperation d) fun next _ => ih next

/-- The declarations of operations. -/
def declarations (defs : List OperationDef) : List Declaration := defs.map .operation

lemma operationsOf_declarations (defs : List OperationDef) :
    operationsOf (declarations defs) = defs := by
  rw [operationsOf, declarations, List.filterMap_map]
  exact List.filterMap_some

/-- The operations of a specification are declared when all of them can be. -/
lemma result_declareAll_collected (ds : List Declaration) (ops : List (String × Operation)) :
    (declareAll (collected ds) ops).result =
      (ops.mapM (fun o => taggedDef o.1 o.2) >>= fun defs =>
        .ok (collected (ds ++ declarations defs))) := by
  induction ops generalizing ds with
  | nil =>
    show _ = Except.ok (collected (ds ++ declarations []))
    rw [declarations, List.map_nil, List.append_nil]
    rfl
  | cons o rest ih =>
    have hdeclare : ∀ d, ((collected ds).addOperation d).result =
        .ok (collected (ds ++ [.operation d])) := fun d =>
      result_declare_collected ds (.operation d)
    rw [declareAll, Traced.result_bind, Traced.result_lift, List.mapM_cons]
    cases taggedDef o.1 o.2 with
    | error e => rfl
    | ok d =>
      simp only [ok_bind, Traced.result_bind, hdeclare, ih]
      cases rest.mapM (fun o => taggedDef o.1 o.2) with
      | error e => rfl
      | ok defs => simp [declarations, pure, Except.pure]

/-! ### Finished documents -/

/-- The document of a specification has the finished operations at their paths and methods, each
with the responses of all operations at its path and method. -/
theorem result_ofSpec (evaluator : Evaluator) (spec : ApiSpec) :
    (ofSpec evaluator spec).result =
      (spec.operations.mapM (fun o => taggedDef o.1 o.2) >>= fun defs =>
        defs.mapM (finished evaluator spec.definitions (responsesFor (declarations defs))) >>=
          fun calls => .ok ⟨spec.title, spec.version, spec.description, spec.servers,
            arranged calls⟩) := by
  have hdeclared : (declareAll .empty spec.operations).result = _ :=
    result_declareAll_collected [] spec.operations
  rw [ofSpec, Traced.result_bind, hdeclared]
  cases spec.operations.mapM (fun o => taggedDef o.1 o.2) with
  | error e => rfl
  | ok defs =>
    simp only [ok_bind, List.nil_append, Traced.result_bind, result_build_collected,
      operationsOf_declarations, hook_foldl_next_none, List.foldl_nil, Traced.result_log,
      Traced.result_pure]
    cases defs.mapM (finished evaluator spec.definitions (responsesFor (declarations defs))) <;> rfl

end Document

end ApiContract
