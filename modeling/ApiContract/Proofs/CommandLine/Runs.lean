import ApiContract.CommandLine.Run
import ApiContract.Proofs.Files.Effects
import ApiContract.Proofs.Files.TreeChanges
import ApiContract.Proofs.UnknownSources

/-!
# When a run changes files

A run changes files only by writing. Writing is the last thing that it does, and it fails with write
errors alone (`failsOnly_write`); what comes before it, the reading of the specification and of the
supplied files, the evaluation, the document and the client, fails with anything but those
(`failsOnly_make`). So the error of a run tells how far it came: unless it is a write error, nothing
was written (`system_of_run`). Whatever a run comes to, it leaves a directory tree behind when it
finds one (`isTree_of_run`).
-/

namespace ApiContract

/-- The failures of writing. -/
def IsWriteFailure (e : Error) : Prop := ∃ path cause, e = .write path cause

/-! ### Writing -/

namespace Files

lemma failsOnly_writeAtomically (path text : String) (s : System) :
    FailsOnly IsWriteFailure ((writeAtomically path text).run s).1 := by
  have hparent : ∀ s, FailsOnly IsWriteFailure ((makeParent path).run s).1 := by
    intro s e he
    obtain ⟨parent, err, _, rfl, _⟩ := makeDirectories_of_makeParent_eq_error (Prod.ext he rfl)
    exact ⟨parent, err, rfl⟩
  exact failsOnly_run_bind hparent
    (fun _ => failsOnly_run_bind (failsOnly_run_change (fun e => ⟨_, e, rfl⟩) _)
      fun _ => failsOnly_run_change (fun e => ⟨_, e, rfl⟩) _) s

end Files

namespace CommandLine

open Client

/-- The texts that are written, by their paths. -/
def Products.texts (p : Products) (o : Options) : List (String × String) :=
  (match p.document, o.openApi with
    | some document, some path => [(path, document.render (o.documentFormat path))]
    | _, _ => []) ++
  match p.artifacts, o.output with
  | some artifacts, some dir => artifacts.map fun a => (Files.join dir a.1, a.2)
  | _, _ => []

lemma write_eq_forM (p : Products) (o : Options) :
    p.write o = (p.texts o).forM fun f => Files.writeAtomically f.1 f.2 := by
  unfold Products.write Products.texts
  rcases p with ⟨_ | document, _ | artifacts⟩ <;> rcases o.openApi with _ | path <;>
    rcases o.output with _ | dir <;>
    simp [Document.write, Artifacts.write, List.forM_map]

/-- Whatever is to be written, writing it fails with write errors alone. -/
theorem failsOnly_write (p : Products) (o : Options) (s : Files.System) :
    FailsOnly IsWriteFailure ((p.write o).run s).1 := by
  rw [write_eq_forM]
  exact Files.failsOnly_run_forM (fun _ => Files.failsOnly_writeAtomically _ _) _ s

lemma keepsTree_write (p : Products) (o : Options) : Files.KeepsTree (p.write o) := by
  rw [write_eq_forM]
  exact .forM (fun _ => Files.keepsTree_writeAtomically _ _) _

/-! ### Making -/

lemma failsOnly_load (s : Files.System) (path : String) :
    FailsOnly (¬ IsWriteFailure ·) (ApiSpec.load s path) := by
  have hmapError : ∀ {ε : Type} (x : Except ε ApiSpec) (wrap : ε → SpecError),
      FailsOnly (¬ IsWriteFailure ·) (x.mapError fun f => Error.spec (wrap f)) := by
    intro ε x wrap
    cases x with
    | error f => exact failsOnly_error nofun
    | ok spec => exact failsOnly_ok spec
  unfold ApiSpec.load
  split
  · unfold ApiSpec.ofText
    split <;> exact hmapError _ _
  · exact failsOnly_error nofun

/-- The declared inputs of a specification are refused for unknown sources alone. -/
lemma failsOnly_check_declaredInputs (spec : ApiSpec) :
    FailsOnly (¬ IsWriteFailure ·) (spec.declaredInputs.forM DeclaredInput.check) := by
  intro e he
  obtain ⟨_, i, _, _, _, hi⟩ := (forM_eq_error_iff _ _ _).mp he
  unfold DeclaredInput.check at hi
  split at hi <;> cases hi
  exact nofun

lemma failsOnly_evaluator (programs : Program.Behaviour) (o : Options) :
    FailsOnly (¬ IsWriteFailure ·) (o.evaluator programs) := by
  unfold Options.evaluator Evaluator.Command.parse
  split
  · split
    · exact failsOnly_error nofun
    · exact failsOnly_ok _
  · exact failsOnly_ok _

/-- Both evaluators fail with failures of evaluation. -/
lemma isEvaluatorProper_of_evaluator {programs : Program.Behaviour} {o : Options}
    {evaluator : Evaluator} (h : o.evaluator programs = .ok evaluator) :
    IsEvaluatorProper evaluator := by
  unfold Options.evaluator at h
  split at h
  · obtain ⟨c, _, h⟩ := bind_eq_ok_iff.mp h
    cases h
    intro expression definitions
    unfold Evaluator.command
    dsimp only
    split
    · exact failsOnly_ok _
    · exact failsOnly_error ⟨_, _, rfl⟩
  · cases h
    intro expression definitions
    unfold Evaluator.schema
    dsimp only
    split
    · exact failsOnly_ok _
    · exact failsOnly_error ⟨_, _, rfl⟩

lemma failsOnly_makeDocument (programs : Program.Behaviour) (o : Options) (spec : ApiSpec) :
    FailsOnly (¬ IsWriteFailure ·) (makeDocument programs o spec).result := by
  unfold makeDocument
  split
  · exact failsOnly_ok _
  · rw [Traced.result_bind, Traced.result_lift]
    refine (failsOnly_evaluator programs o).bind fun evaluator hevaluator => ?_
    rw [Traced.result_bind]
    refine FailsOnly.bind ?_ fun _ _ => failsOnly_ok _
    rintro e he ⟨path, cause, rfl⟩
    have hother : ¬ IsEvaluationFailure (.write path cause) := nofun
    rw [result_ofSpec_eq_error_iff (isEvaluatorProper_of_evaluator hevaluator) spec hother,
      ← outcome_eq_error_iff, outcome_taggedDefs] at he
    exact failsOnly_check_declaredInputs spec _ he ⟨path, cause, rfl⟩

lemma failsOnly_collectFiles (s : Files.System) (root : String) (n : Nat) (dir : String)
    (found : List (String × String)) :
    FailsOnly (¬ IsWriteFailure ·) (collectFiles s root n dir found) := by
  induction n generalizing dir found with
  | zero => exact failsOnly_ok _
  | succ n ih =>
    rw [collectFiles]
    split
    · exact failsOnly_error (by rintro ⟨_, _, ⟨⟩⟩)
    · refine failsOnly_foldlM (fun found name => ?_) _ _
      dsimp only
      split
      · exact ih _ _
      · split
        · exact failsOnly_ok _
        · exact failsOnly_ok _

lemma failsOnly_client (o : Options) (s : Files.System) :
    FailsOnly (¬ IsWriteFailure ·) (o.client s) := by
  have hsupplied : ∀ file, FailsOnly (¬ IsWriteFailure ·) (suppliedFile s file) := by
    intro file
    unfold suppliedFile
    split
    · exact failsOnly_ok _
    · exact failsOnly_error (by rintro ⟨_, _, ⟨⟩⟩)
  unfold Options.client Artifacts.load
  split
  · refine FailsOnly.bind ?_ fun _ _ => failsOnly_ok _
    exact (failsOnly_collectFiles _ _ _ _ _).bind fun _ _ =>
      (failsOnly_mapM fun _ _ => hsupplied _).bind fun _ _ => failsOnly_ok _
  · exact failsOnly_ok _

lemma failsOnly_makeArtifacts (o : Options) (s : Files.System) (spec : ApiSpec) :
    FailsOnly (¬ IsWriteFailure ·) (makeArtifacts o s spec).result := by
  unfold makeArtifacts
  split
  · exact failsOnly_ok _
  · rw [Traced.result_bind, Traced.result_lift]
    refine (failsOnly_client o s).bind fun choices _ => ?_
    rw [Traced.result_bind]
    refine FailsOnly.bind ?_ fun _ _ => failsOnly_ok _
    rintro e he ⟨path, cause, rfl⟩
    have hother : ¬ IsPlannedFailure (.write path cause) := nofun
    rw [result_compile_eq_error_iff spec.groups choices hother, ← outcome_eq_error_iff,
      outcome_ofGroups] at he
    exact failsOnly_check_declaredInputs spec _ he ⟨path, cause, rfl⟩

/-- What a run makes before it writes fails with anything but write errors. -/
theorem failsOnly_make (programs : Program.Behaviour) (o : Options) (s : Files.System) :
    FailsOnly (¬ IsWriteFailure ·) (make programs o s).result := by
  have hmake : FailsOnly (¬ IsWriteFailure ·) (do
      let spec ← Traced.lift (ApiSpec.load s o.spec)
      Traced.log .info "loaded specification"
        [("title", spec.title), ("groups", toString spec.groups.length),
          ("operations", toString spec.operations.length)]
      let document ← makeDocument programs o spec
      let artifacts ← makeArtifacts o s spec
      return ⟨document, artifacts⟩ : Traced HookCall Products).result := by
    simp only [Traced.result_bind, Traced.result_lift, Traced.result_log, ok_bind]
    exact (failsOnly_load s o.spec).bind fun spec _ =>
      (failsOnly_makeDocument programs o spec).bind fun _ _ =>
        (failsOnly_makeArtifacts o s spec).bind fun _ _ => failsOnly_ok _
  unfold make
  split
  · exact failsOnly_error nofun
  · exact hmake

/-! ### Runs -/

/-- A run fails before it writes, only shows what it made, or writes it. -/
lemma run_cases (programs : Program.Behaviour) (o : Options) (s : Files.System) :
    (∃ e, (make programs o s).result = .error e ∧ run programs o s = ⟨"", s, .error e⟩) ∨
    (∃ p, (make programs o s).result = .ok p ∧ o.isDryRun = true ∧
      run programs o s = ⟨p.preview o, s, .ok ()⟩) ∨
    ∃ p, (make programs o s).result = .ok p ∧ o.isDryRun = false ∧
      run programs o s = ⟨"", ((p.write o).run s).2, ((p.write o).run s).1⟩ := by
  unfold run
  rcases (make programs o s).result with e | p
  · exact .inl ⟨e, rfl, rfl⟩
  · cases o.isDryRun with
    | true => exact .inr (.inl ⟨p, rfl, rfl, rfl⟩)
    | false => exact .inr (.inr ⟨p, rfl, rfl, rfl⟩)

/-- A run that finds a directory tree leaves one behind, also when it fails while it writes. -/
theorem isTree_of_run (programs : Program.Behaviour) (o : Options) {s : Files.System}
    (hs : s.IsTree) : (run programs o s).system.IsTree := by
  obtain ⟨e, _, hrun⟩ | ⟨p, _, _, hrun⟩ | ⟨p, _, _, hrun⟩ := run_cases programs o s <;> rw [hrun]
  · exact hs
  · exact hs
  · exact keepsTree_write p o s hs

/-- A run that fails with anything but a write error, and a run that only shows what it would write,
leave all files as they are, whatever the options ask for. A run fails with anything but a write
error exactly when making fails, and a run that fails with a write error has made everything. -/
theorem system_of_run (programs : Program.Behaviour) (o : Options) (s : Files.System) :
    (∀ e, ¬ IsWriteFailure e → (run programs o s).result = .error e →
      (run programs o s).system = s) ∧
    (o.isDryRun = true → (run programs o s).system = s) ∧
    (∀ e, ¬ IsWriteFailure e →
      ((run programs o s).result = .error e ↔ (make programs o s).result = .error e)) ∧
    ∀ e, IsWriteFailure e → (run programs o s).result = .error e →
      o.isDryRun = false ∧ ∃ p, (make programs o s).result = .ok p := by
  obtain ⟨e, hmake, hrun⟩ | ⟨p, hmake, hdry, hrun⟩ | ⟨p, hmake, hwet, hrun⟩ :=
    run_cases programs o s <;> rw [hrun, hmake]
  · have hother : ¬ IsWriteFailure e := failsOnly_make programs o s e hmake
    refine ⟨fun _ _ _ => rfl, fun _ => rfl, fun _ _ => by simp only [Except.error.injEq],
      fun e' hwrite he => ?_⟩
    cases he
    exact absurd hwrite hother
  · exact ⟨nofun, fun _ => rfl, fun _ _ => iff_of_false nofun nofun, nofun⟩
  · have hwrites : FailsOnly IsWriteFailure ((p.write o).run s).1 := failsOnly_write p o s
    refine ⟨fun e hother he => absurd (hwrites e he) hother, fun hdry => ?_,
      fun e hother => iff_of_false (fun he => hother (hwrites e he)) nofun,
      fun _ _ _ => ⟨hwet, p, rfl⟩⟩
    rw [hwet] at hdry
    cases hdry

/-- A disk with a specification of two groups and a supplied file in a directory. -/
def shopDisk (group : String) : Files.System where
  entries := [
    (["api.json"], .file ("\x7b\"title\":\"Shop\",\"version\":\"1\",\"groups\":" ++
      "\x7b\"items\":[],\"" ++ group ++ "\":[]\x7d\x7d").toByteArray),
    (["extra"], .directory), (["extra", "client.rs"], .file "pub struct Client;".toByteArray)]
  home := []

/-- Options that ask for a client and for a document at the given path. -/
def shopOptions (path : String) (isDryRun : Bool) : Options :=
  ⟨"api.json", some "out", some path, none, none, "crate::failures", some "extra", isDryRun, 0⟩

/-- No program can be run. -/
def noPrograms : Program.Behaviour := fun _ _ _ => .notSpawned .notFound

/-- A failure by its text. -/
lemma exists_error_of_message {α : Type} {x : Except Error α} {text : String}
    (h : (outcome x).mapError Error.message = .error text) :
    ∃ e, x = .error e ∧ e.message = text := by
  cases x with
  | error e => exact ⟨e, rfl, Except.error.inj h⟩
  | ok a => cases h

/-- A client whose groups have one module is refused before the document is written, a run that only
shows leaves the files alone, and a document in place of a directory is refused after everything was
made. -/
theorem system_of_shopRuns :
    (∃ e, ¬ IsWriteFailure e ∧
      e.message = "Naming collision: schema module 'items' is produced by both 'items' and " ++
        "'Items'" ∧
      (run noPrograms (shopOptions "api.yaml" false) (shopDisk "Items")).result = .error e ∧
      (run noPrograms (shopOptions "api.yaml" false) (shopDisk "Items")).system =
        shopDisk "Items") ∧
    (shopOptions "api.yaml" true).isDryRun = true ∧
    (run noPrograms (shopOptions "api.yaml" true) (shopDisk "carts")).system = shopDisk "carts" ∧
    ∃ e p, IsWriteFailure e ∧
      e.message = "Failed to write output file 'extra': Is a directory (os error 21)" ∧
      (run noPrograms (shopOptions "extra" false) (shopDisk "carts")).result = .error e ∧
      (make noPrograms (shopOptions "extra" false) (shopDisk "carts")).result = .ok p := by
  obtain ⟨hclash, _, hmakes, _⟩ :=
    system_of_run noPrograms (shopOptions "api.yaml" false) (shopDisk "Items")
  obtain ⟨_, hshown, _, _⟩ :=
    system_of_run noPrograms (shopOptions "api.yaml" true) (shopDisk "carts")
  obtain ⟨_, _, hothers, _⟩ :=
    system_of_run noPrograms (shopOptions "extra" false) (shopDisk "carts")
  have hrefused : (outcome (make noPrograms (shopOptions "api.yaml" false)
      (shopDisk "Items")).result).mapError Error.message =
        .error ("Naming collision: schema module 'items' is produced by both 'items' and " ++
          "'Items'") := by
    decide +kernel
  obtain ⟨e, he, hmessage⟩ := exists_error_of_message hrefused
  have hother : ¬ IsWriteFailure e := failsOnly_make _ _ _ e he
  have hrun := (hmakes e hother).mpr he
  have hunwritten : (outcome (run noPrograms (shopOptions "extra" false)
      (shopDisk "carts")).result).mapError Error.message =
        .error "Failed to write output file 'extra': Is a directory (os error 21)" := by
    decide +kernel
  obtain ⟨e', he', hmessage'⟩ := exists_error_of_message hunwritten
  -- Everything is made there, so only the writing can have failed.
  have hmade : (make noPrograms (shopOptions "extra" false) (shopDisk "carts")).result.isOk =
      true := by
    decide +kernel
  obtain ⟨p, hp⟩ := exists_eq_ok hmade
  have hwrite : IsWriteFailure e' := by
    by_contra hnone
    rw [hothers e' hnone, hp] at he'
    cases he'
  exact ⟨⟨e, hother, hmessage, hrun, hclash e hother hrun⟩, rfl, hshown rfl,
    e', p, hwrite, hmessage', he', hp⟩

end CommandLine

end ApiContract
