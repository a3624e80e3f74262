import ApiContract.Proofs.Client.ErrorNames

/-!
# Errors in the modules of a client

Three modules speak of errors: the unions of the registry have them as variants, the registry
imports them, and the module of the error types defines them. Each is generated on its own from the
endpoints, without a look at the others. What they have in common is one list of texts, that of the
errors of the endpoints that answer once, each at its first use (`referencedErrors`): a union is
read from the errors of its endpoint, imports and definitions are read from the list
(`SpellsErrors`). The errors of an endpoint are never none, for an endpoint that declares none has
the fallback.

Streams have no union, so their errors are of no account. Two lists of groups that differ in them
alone have endpoints that differ in streams alone (`forall₂_ofGroups`), hence the same registry and
the same errors.
-/

namespace ApiContract.Client

open Code

/-! ### Endpoints without their streams -/

namespace Endpoint

/-- Two operations that differ at most in the errors that a stream declares. -/
inductive DiffersInStreamErrors (op : Operation) : Operation → Prop where
  | same : DiffersInStreamErrors op op
  | stream (h : op.isStream = true) (errors : List String) :
      DiffersInStreamErrors op { op with errors := errors }

/-- Two lists of groups with the same operations but for the errors that streams declare. -/
def DifferInStreamErrors (groups groups' : Groups) : Prop :=
  List.Forall₂ (fun g g' => g'.1 = g.1 ∧ List.Forall₂ DiffersInStreamErrors g.2 g'.2) groups groups'

/-- Two endpoints that are the same or both streams. -/
def SameButStream (e e' : Endpoint) : Prop :=
  e' = e ∨ e.isStream = true ∧ e'.isStream = true

/-- Lists of endpoints that differ in streams alone have the same endpoints that answer once. -/
lemma standard_eq_of_forall₂ {es es' : List Endpoint} (h : List.Forall₂ SameButStream es es') :
    standard es' = standard es := by
  induction h with
  | nil => rfl
  | cons he _ ih =>
    unfold standard at ih ⊢
    rcases he with rfl | ⟨he, he'⟩
    · rw [List.filter_cons, List.filter_cons, ih]
    · rw [List.filter_cons_of_neg (by simp [he']), List.filter_cons_of_neg (by simp [he]), ih]

lemma forall₂_sameButStream_self (es : List Endpoint) : List.Forall₂ SameButStream es es :=
  List.forall₂_same.mpr fun _ _ => .inl rfl

/-- The endpoints of a stream with other errors are streams. -/
lemma forall₂_ofOperation (group : String) {op op' : Operation} (h : DiffersInStreamErrors op op')
    (es : List Endpoint) (hes : ofOperation group op = .ok es) :
    ∃ es', ofOperation group op' = .ok es' ∧ List.Forall₂ SameButStream es es' := by
  cases h with
  | same => exact ⟨es, hes, forall₂_sameButStream_self es⟩
  | stream hstream errors =>
    unfold ofOperation at hes ⊢
    obtain ⟨placement, hplacement, hes⟩ := bind_eq_ok_iff.mp hes
    have hplacement' : Placement.ofOperation { op with errors := errors } = .ok placement :=
      hplacement
    have hsame : ∀ tag, SameButStream (ofVariant group op placement tag)
        (ofVariant group { op with errors := errors } placement tag) := fun tag =>
      .inr ⟨hstream, hstream⟩
    rw [hplacement', ok_bind]
    cases hes
    refine ⟨_, rfl, ?_⟩
    by_cases hvariants : op.hasVariants = true
    · have hvariants' : Operation.hasVariants { op with errors := errors } = true := hvariants
      rw [if_pos hvariants, if_pos hvariants', List.forall₂_map_left_iff,
        List.forall₂_map_right_iff]
      exact List.forall₂_same.mpr fun tag _ => hsame tag
    · have hvariants' : ¬ Operation.hasVariants { op with errors := errors } = true := hvariants
      rw [if_neg hvariants, if_neg hvariants']
      exact .cons (.inr ⟨hstream, hstream⟩) .nil

/-- Groups that differ in the errors of streams alone have endpoints that differ in streams
alone. -/
theorem forall₂_ofGroups {groups groups' : Groups} (h : DifferInStreamErrors groups groups')
    {es : List Endpoint} (hes : ofGroups groups = .ok es) :
    ∃ es', ofGroups groups' = .ok es' ∧ List.Forall₂ SameButStream es es' := by
  unfold ofGroups at hes ⊢
  obtain ⟨all, hall, hes⟩ := bind_eq_ok_iff.mp hes
  cases hes
  obtain ⟨all', hall', hsame⟩ := exists_mapM_of_forall₂
    (S := List.Forall₂ (List.Forall₂ SameButStream))
    (g := fun g => g.2.mapM (ofOperation g.1)) h (fun g g' hg owns howns => by
      obtain ⟨group, ops⟩ := g
      obtain ⟨group', ops'⟩ := g'
      obtain ⟨rfl, hops⟩ := hg
      exact exists_mapM_of_forall₂ hops (fun _ _ hop => forall₂_ofOperation _ hop) howns) hall
  refine ⟨(all'.map List.flatten).flatten, by rw [hall']; rfl, ?_⟩
  refine List.rel_flatten (List.forall₂_map_left_iff.mpr (List.forall₂_map_right_iff.mpr ?_))
  exact hsame.imp fun _ _ howns => List.rel_flatten howns

end Endpoint

/-! ### Errors of endpoints -/

/-- An endpoint has the errors that are declared, each at its first place, or the fallback when none
is declared. -/
lemma errors_eq_ite (e : Endpoint) :
    e.errors = if e.operation.errors = [] then [Endpoint.fallbackError]
      else e.operation.errors.eraseDups := by
  unfold Endpoint.errors
  simp only [List.isEmpty_iff, Endpoint.distinct_eq_eraseDups]

lemma errors_ne_nil (e : Endpoint) : e.errors ≠ [] := by
  rw [errors_eq_ite]
  split
  · exact List.cons_ne_nil _ _
  · rename_i hsome
    exact mt (eraseDups_eq_nil_iff _).mp hsome

/-- An error of an endpoint that answers once is one of all errors, once. -/
lemma count_referencedErrors {es : List Endpoint} {e : Endpoint} (he : e ∈ Endpoint.standard es)
    {s : String} (hs : s ∈ e.errors) : (Endpoint.referencedErrors es).count s = 1 := by
  have hmem : s ∈ Endpoint.referencedErrors es := Endpoint.mem_referencedErrors_iff.mpr ⟨e, he, hs⟩
  exact List.count_eq_one_of_mem (Endpoint.nodup_distinct _) hmem

/-! ### Errors in modules -/

/-- The modules spell the errors of endpoints: each union has as variants what the errors of its
endpoint are read as, and last the variant for failed validation; what all errors are read as is
imported, and there is one type for each of them, which keeps the text, and nothing else. -/
structure SpellsErrors (es : List Endpoint) (registry errors : Module) : Prop where
  variants : registry.unionVariants.map (List.map Except.ok) =
    (Endpoint.standard es).map fun e => (e.errors ++ [invalidInput]).map Identifier.parse
  imported : registry.errorImports.map Except.ok =
    (Endpoint.referencedErrors es).map Identifier.parse
  defined : List.Forall₂ (fun s item => ∃ i, Identifier.parse s = .ok i ∧ item = .errorType i s)
    (Endpoint.referencedErrors es) errors.items

lemma forall₂_errorType_of_ofErrors {names : List String} {m : Module}
    (h : Module.ofErrors names = .ok m) :
    List.Forall₂ (fun s item => ∃ i, Identifier.parse s = .ok i ∧ item = .errorType i s)
      names m.items := by
  unfold Module.ofErrors at h
  obtain ⟨items, hitems, h⟩ := bind_eq_ok_iff.mp h
  cases h
  refine ((mapM_eq_ok_iff _ _ _).mp hitems).imp fun s item hitem => ?_
  obtain ⟨i, hi, hitem⟩ := bind_eq_ok_iff.mp hitem
  cases hitem
  exact ⟨i, hi, rfl⟩

/-- Texts that are read as identifiers have a module of error types. -/
lemma exists_ofErrors {names : List String} {read : List Identifier}
    (h : names.mapM Identifier.parse = .ok read) : ∃ m, Module.ofErrors names = .ok m := by
  have hitem : ∀ s ∈ names, ∃ item, errorItem s = .ok item := by
    intro s hs
    obtain ⟨i, _, hi⟩ := exists_of_mapM_of_mem h hs
    exact ⟨.errorType i s, by rw [errorItem, hi]; rfl⟩
  obtain ⟨items, hitems⟩ := exists_mapM_eq_ok hitem
  exact ⟨⟨_, items⟩, by rw [Module.ofErrors, hitems]; rfl⟩

/-- Where a registry is generated, so is the module of the error types that it needs. -/
theorem exists_spellsErrors {groups : Groups} {es : List Endpoint}
    (hes : Endpoint.ofGroups groups = .ok es) {errorsModule : String} {registry : Module}
    (hregistry : Module.ofEndpoints errorsModule es = .ok registry) :
    ∃ errors, Module.ofErrors (Endpoint.referencedErrors es) = .ok errors ∧
      SpellsErrors es registry errors := by
  obtain ⟨_, read, _, hread, _⟩ := items_of_ofEndpoints hregistry
  obtain ⟨errors, herrors⟩ := exists_ofErrors hread
  exact ⟨errors, herrors, unionVariants_of_ofEndpoints hes hregistry,
    errorImports_of_ofEndpoints hes hregistry, forall₂_errorType_of_ofErrors herrors⟩

/-! ### Closed errors -/

/-- The errors of endpoints are closed: all errors are those of the endpoints that answer once, in
order and each at its first place, every endpoint has one, and what a union, an import or a
definition is read from is listed once and no other text is. -/
structure ClosesErrors (es : List Endpoint) : Prop where
  listed : Endpoint.referencedErrors es =
    ((Endpoint.standard es).flatMap Endpoint.errors).eraseDups
  declared : ∀ e ∈ Endpoint.standard es, e.errors ≠ [] ∧
    e.errors = if e.operation.errors = [] then [Endpoint.fallbackError]
      else e.operation.errors.eraseDups
  once : ∀ e ∈ Endpoint.standard es, ∀ s ∈ e.errors, (Endpoint.referencedErrors es).count s = 1
  used : ∀ s ∈ Endpoint.referencedErrors es, ∃ e ∈ Endpoint.standard es, s ∈ e.errors
  spelled : ∀ errorsModule registry, Module.ofEndpoints errorsModule es = .ok registry →
    ∃ errors, Module.ofErrors (Endpoint.referencedErrors es) = .ok errors ∧
      SpellsErrors es registry errors

/-- The errors of the endpoints of groups are closed, and the errors that streams declare have no
part in it: with others there are the same errors and the same registry. -/
theorem closesErrors_of_ofGroups {groups : Groups} {es : List Endpoint}
    (hes : Endpoint.ofGroups groups = .ok es) :
    ClosesErrors es ∧
    ∀ groups', Endpoint.DifferInStreamErrors groups groups' →
      ∃ es', Endpoint.ofGroups groups' = .ok es' ∧ Endpoint.standard es' = Endpoint.standard es ∧
        Endpoint.referencedErrors es' = Endpoint.referencedErrors es ∧
        ∀ errorsModule,
          Module.ofEndpoints errorsModule es' = Module.ofEndpoints errorsModule es := by
  constructor
  · exact {
      listed := Endpoint.distinct_eq_eraseDups _
      declared := fun e _ => ⟨errors_ne_nil e, errors_eq_ite e⟩
      once := fun _ he _ hs => count_referencedErrors he hs
      used := fun _ hs => Endpoint.mem_referencedErrors_iff.mp hs
      spelled := fun _ _ hregistry => exists_spellsErrors hes hregistry }
  · intro groups' hdiffer
    obtain ⟨es', hes', hsame⟩ := Endpoint.forall₂_ofGroups hdiffer hes
    have hstandard : Endpoint.standard es' = Endpoint.standard es :=
      Endpoint.standard_eq_of_forall₂ hsame
    have herrors : Endpoint.referencedErrors es' = Endpoint.referencedErrors es := by
      rw [Endpoint.referencedErrors, hstandard, Endpoint.referencedErrors]
    refine ⟨es', hes', hstandard, herrors, fun errorsModule => ?_⟩
    unfold Module.ofEndpoints
    rw [hstandard, herrors]

/-- An endpoint without errors, one that declares the fallback and another error twice, in two
variants, and a stream with errors. -/
def queueGroups (streamErrors : List String) : Groups :=
  [("queue", [
    { Operation.new "push" .post "/queue" with
      schemas := [("default", "z.any()"), ("text/csv", "z.csv()")],
      errors := ["Full", "UnknownError", "Full"] },
    { Operation.new "watch" .get "/queue" with kind := .stream, errors := streamErrors },
    Operation.new "pop" .delete "/queue"])]

theorem closesErrors_of_queueGroups : ∃ es, Endpoint.ofGroups (queueGroups ["Gone"]) = .ok es ∧
    ClosesErrors es ∧ (Endpoint.standard es).map Endpoint.errors =
      [["Full", "UnknownError"], ["Full", "UnknownError"], ["UnknownError"]] ∧
    Endpoint.referencedErrors es = ["Full", "UnknownError"] ∧
    (∃ registry errors, Module.ofEndpoints "crate::errors" es = .ok registry ∧
      SpellsErrors es registry errors) ∧
    ∃ es', Endpoint.ofGroups (queueGroups []) = .ok es' ∧
      Endpoint.referencedErrors es' = Endpoint.referencedErrors es ∧
      ∀ errorsModule, Module.ofEndpoints errorsModule es' =
        Module.ofEndpoints errorsModule es := by
  obtain ⟨es, hes⟩ : ∃ es, Endpoint.ofGroups (queueGroups ["Gone"]) = .ok es := ⟨_, rfl⟩
  obtain ⟨hcloses, hstream⟩ := closesErrors_of_ofGroups hes
  have hdiffer : Endpoint.DifferInStreamErrors (queueGroups ["Gone"]) (queueGroups []) :=
    .cons ⟨rfl, .cons .same (.cons (.stream rfl []) (.cons .same .nil))⟩ .nil
  obtain ⟨es', hes', _, herrors, hsame⟩ := hstream _ hdiffer
  have hgenerated : ((Endpoint.ofGroups (queueGroups ["Gone"])).bind
      (Module.ofEndpoints "crate::errors")).isOk = true := by decide +kernel
  rw [hes] at hgenerated
  obtain ⟨registry, hregistry⟩ := exists_eq_ok hgenerated
  obtain ⟨errors, _, hspells⟩ := hcloses.spelled _ _ hregistry
  refine ⟨es, hes, hcloses, ?_, ?_, ⟨registry, errors, hregistry, hspells⟩, es', hes', herrors,
    hsame⟩
  · cases hes
    decide +kernel
  · cases hes
    decide +kernel

end ApiContract.Client
