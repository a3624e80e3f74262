import ApiContract.Proofs.Client.FirstCollision
import ApiContract.Client.Artifacts

/-!
# How compiling fails

The inputs of all operations are looked at when the endpoints are planned, and nowhere else. What
comes after that fails only because names collide, because supplied files do not fit or because a
name is no identifier (`IsPlannedFailure`). So for anything else, such as an unknown source, a
client is refused exactly when its endpoints are (`result_compile_eq_error_iff`).
-/

namespace ApiContract.Client

open Code

/-- The failures of groups whose endpoints are planned. -/
inductive IsPlannedFailure : Error → Prop where
  | collision (kind : NameKind) (name first second : String) :
      IsPlannedFailure (.collision kind name first second)
  | config (e : ConfigError) : IsPlannedFailure (.config e)
  | code (e : CodeError) : IsPlannedFailure (.code e)

/-! ### Generated modules -/

lemma failsOnly_identifier (s : String) : FailsOnly IsPlannedFailure (Identifier.parse s) := by
  intro e he
  obtain ⟨_, rfl⟩ := (Identifier.parse_eq_error_iff s e).mp he
  exact .code _

lemma failsOnly_path (s : String) : FailsOnly IsPlannedFailure (Path.parse s) := by
  unfold Path.parse
  split
  · exact failsOnly_ok _
  · exact failsOnly_error (.code _)

lemma failsOnly_identifiers (names : List String) :
    FailsOnly IsPlannedFailure (names.mapM Identifier.parse) :=
  failsOnly_mapM fun name _ => failsOnly_identifier name

lemma failsOnly_checkImports (path : Path) (es : List Endpoint) :
    FailsOnly IsPlannedFailure (checkImports path es) := by
  unfold checkImports
  split
  · exact failsOnly_error (.code _)
  · exact failsOnly_ok _

lemma failsOnly_schemaItem (op : Operation) : FailsOnly IsPlannedFailure (schemaItem op) := by
  unfold schemaItem
  split
  · refine (failsOnly_identifier _).bind fun _ _ => FailsOnly.bind ?_ fun _ _ => failsOnly_ok _
    exact failsOnly_mapM fun _ _ => (failsOnly_identifier _).bind fun _ _ => failsOnly_ok _
  · exact (failsOnly_identifier _).bind fun _ _ => failsOnly_ok _

lemma failsOnly_ofGroup (group : String) (ops : List Operation) :
    FailsOnly IsPlannedFailure (Module.ofGroup group ops) :=
  (failsOnly_mapM fun op _ => failsOnly_schemaItem op).bind fun _ _ => failsOnly_ok _

lemma failsOnly_ofSchemas (groups : List String) :
    FailsOnly IsPlannedFailure (Module.ofSchemas groups) :=
  (failsOnly_mapM fun _ _ => failsOnly_identifier _).bind fun _ _ => failsOnly_ok _

lemma failsOnly_ofErrors (names : List String) :
    FailsOnly IsPlannedFailure (Module.ofErrors names) :=
  (failsOnly_mapM fun _ _ => (failsOnly_identifier _).bind fun _ _ => failsOnly_ok _).bind
    fun _ _ => failsOnly_ok _

lemma failsOnly_ofModules (names : List String) :
    FailsOnly IsPlannedFailure (Module.ofModules names) :=
  (failsOnly_identifiers names).bind fun _ _ => failsOnly_ok _

lemma failsOnly_ofEndpoints (errorsModule : String) (es : List Endpoint) :
    FailsOnly IsPlannedFailure (Module.ofEndpoints errorsModule es) := by
  have hitems : ∀ e, FailsOnly IsPlannedFailure (standardItems e) := fun e =>
    (failsOnly_identifier _).bind fun _ _ => (failsOnly_identifier _).bind fun _ _ =>
      (failsOnly_path _).bind fun _ _ => (failsOnly_identifier _).bind fun _ _ =>
        (failsOnly_identifiers _).bind fun _ _ => failsOnly_ok _
  exact (failsOnly_path _).bind fun _ _ => (failsOnly_identifiers _).bind fun _ _ =>
    (failsOnly_mapM fun e _ => hitems e).bind fun _ _ =>
      (failsOnly_checkImports _ _).bind fun _ _ => failsOnly_ok _

lemma failsOnly_ofStreams (es : List Endpoint) :
    FailsOnly IsPlannedFailure (Module.ofStreams es) := by
  have hitems : ∀ e, FailsOnly IsPlannedFailure (streamItems e) := fun e =>
    (failsOnly_identifier _).bind fun _ _ => (failsOnly_path _).bind fun _ _ => failsOnly_ok _
  exact (failsOnly_mapM fun e _ => hitems e).bind fun _ _ => failsOnly_ok _

lemma failsOnly_ofDispatch (es : List Endpoint) :
    FailsOnly IsPlannedFailure (Module.ofDispatch es) := by
  have hbuilder : ∀ e, FailsOnly IsPlannedFailure (builderItem e) := fun e =>
    (failsOnly_identifier _).bind fun _ _ => failsOnly_ok _
  have hrow : ∀ e, FailsOnly IsPlannedFailure (dispatchRow e) := fun e =>
    (failsOnly_path _).bind fun _ _ => (failsOnly_identifier _).bind fun _ _ => failsOnly_ok _
  exact (failsOnly_mapM fun e _ => hbuilder e).bind fun _ _ =>
    (failsOnly_mapM fun e _ => hrow e).bind fun _ _ =>
      (failsOnly_mapM fun e _ => hrow e).bind fun _ _ => failsOnly_ok _

/-! ### Files -/

lemma failsOnly_checkNames (groups : Groups) (es : List Endpoint) :
    FailsOnly IsPlannedFailure (checkNames groups es) := by
  intro e he
  cases (checkNames_eq_error_iff groups es e).mp he <;> exact .collision _ _ _ _

lemma failsOnly_modules (o : Options) : FailsOnly IsPlannedFailure (modules o) := by
  refine failsOnly_foldlM (fun names name => ?_) _ _
  unfold addModule
  split
  · exact failsOnly_error (.config _)
  · exact failsOnly_ok _

lemma failsOnly_addSupplied (supplied files : Artifacts) :
    FailsOnly IsPlannedFailure (supplied.foldlM addSupplied files) := by
  refine failsOnly_foldlM (fun files file => ?_) _ _
  unfold addSupplied
  split
  · exact failsOnly_error (.config _)
  · exact failsOnly_ok _

lemma failsOnly_textOf {η : Type} {m : Except Error Module} (h : FailsOnly IsPlannedFailure m) :
    FailsOnly IsPlannedFailure (textOf m : Traced η String).result :=
  h.map _

lemma failsOnly_addGroups {η : Type} (groups : List (String × List Operation)) (files : Artifacts) :
    FailsOnly IsPlannedFailure (addGroups groups files : Traced η Artifacts).result := by
  induction groups generalizing files with
  | nil => exact failsOnly_ok _
  | cons group rest ih =>
    rw [addGroups, Traced.result_bind]
    refine (failsOnly_textOf (failsOnly_ofGroup _ _)).bind fun text _ => ?_
    rw [Traced.result_bind, Traced.result_log, ok_bind]
    exact ih _

/-- A failure that planned endpoints do not have is one of the planning. -/
theorem result_compile_eq_error_iff {η : Type} (groups : Groups) (o : Options) {e : Error}
    (he : ¬ IsPlannedFailure e) :
    (compile groups o : Traced η Artifacts).result = .error e ↔
      Endpoint.ofGroups groups = .error e := by
  unfold compile
  rw [Traced.result_bind, Traced.result_lift]
  refine bind_eq_error_iff_of_ne fun es hes h => ?_
  suffices hlate : FailsOnly IsPlannedFailure _ from he (hlate _ h)
  rw [Traced.result_bind, result_validate hes]
  refine (failsOnly_checkNames groups es).bind fun _ _ => ?_
  rw [Traced.result_bind, Traced.result_lift]
  refine (failsOnly_modules o).bind fun names _ => ?_
  rw [Traced.result_bind]
  refine (failsOnly_textOf (failsOnly_ofModules names)).bind fun root _ => ?_
  -- The error module is written or not, and what follows is the same.
  extract_lets files afterErrors
  have hafter : ∀ files, FailsOnly IsPlannedFailure (afterErrors files).result := by
    intro files
    simp only [afterErrors, Traced.result_bind, Traced.result_logAll, Traced.result_lift, ok_bind]
    exact (failsOnly_textOf (failsOnly_ofSchemas _)).bind fun _ _ =>
      (failsOnly_addGroups _ _).bind fun _ _ =>
        (failsOnly_textOf (failsOnly_ofEndpoints _ _)).bind fun _ _ =>
          (failsOnly_textOf (failsOnly_ofStreams _)).bind fun _ _ =>
            (failsOnly_textOf (failsOnly_ofDispatch _)).bind fun _ _ => failsOnly_addSupplied _ _
  split
  · rw [Traced.result_bind]
    exact (failsOnly_textOf (failsOnly_ofErrors _)).bind fun _ _ => hafter _
  · exact hafter _

end ApiContract.Client
