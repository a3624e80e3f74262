import ApiContract.Proofs.Client.RegistryItems
import Mathlib.Data.Set.Function

/-!
# Names of errors in a client

Errors are told apart as texts: an endpoint has no text twice, and validation compares the texts
with those of the types. What stands in the code is what the texts are read as, and reading passes
over blanks and comments. So the errors of a compiled client are distinct, and distinct from the
types and from the variant for failed validation, exactly when reading keeps all these texts apart
(`separatesErrors_of_compile`); it does when the errors are read as they stand. Validation does not
ask for that, and `spacedGroups_accepted` is about a group where the client has an error twice.
-/

namespace ApiContract.Client

open Code

/-! ### Views -/

namespace Item

/-- The names of an import. -/
def imported : Item → List (List Identifier)
  | .imports _ names => [names]
  | _ => []

/-- The variants of an error union, the one for failed validation included. -/
def unionVariants : Item → List (List Identifier)
  | .union _ _ errors invalid => [errors ++ [invalid]]
  | _ => []

/-- The types that stand for endpoints and their errors. -/
def endpointTypes : Item → List Identifier
  | .marker _ name | .union _ name _ _ => [name]
  | _ => []

/-- The type of an error. -/
def errorTypes : Item → List Identifier
  | .errorType name _ => [name]
  | _ => []

end Item

namespace Module

/-- The errors that a registry imports: all names of its imports but the first, which is that of the
traits. -/
def errorImports (m : Module) : List Identifier := ((m.items.flatMap Item.imported).drop 1).flatten

/-- The variants of each error union of a module. -/
def unionVariants (m : Module) : List (List Identifier) := m.items.flatMap Item.unionVariants

/-- The markers and error unions of a module. -/
def endpointTypes (m : Module) : List Identifier := m.items.flatMap Item.endpointTypes

/-- The types of errors of a module. -/
def errorTypes (m : Module) : List Identifier := m.items.flatMap Item.errorTypes

end Module

/-- No error union has a variant twice, no error is imported or defined twice, and none is a marker
or an error union. -/
structure Generated.SeparatesErrors (c : Generated) : Prop where
  variants : ∀ names ∈ c.registry.unionVariants, names.Nodup
  imported : c.registry.errorImports.Nodup
  defined : ∀ m ∈ c.errors, m.errorTypes.Nodup
  apart : ∀ name ∈ c.registry.errorImports ++ c.errors.toList.flatMap Module.errorTypes,
    name ∉ c.registry.endpointTypes ++ c.streams.endpointTypes

/-- The texts that give the errors of endpoints and what these must not be: the variant for failed
validation, the markers and the error unions. -/
def comparedNames (es : List Endpoint) : Set String :=
  {s | s ∈ Endpoint.referencedErrors es} ∪
    {s | s = invalidInput ∨ s ∈ es.flatMap Endpoint.typeNames}

/-! ### What registries show of errors -/

lemma map_ok_of_mapM_parse {names : List String} {read : List Identifier}
    (h : names.mapM Identifier.parse = .ok read) :
    read.map Except.ok = names.map Identifier.parse :=
  map_eq_map_of_forall₂ ((mapM_eq_ok_iff _ _ _).mp h) fun _ _ _ hname => hname.symm

lemma nodup_iff_of_map_ok {names : List String} {read : List Identifier}
    (h : read.map Except.ok = names.map Identifier.parse) :
    read.Nodup ↔ (names.map Identifier.parse).Nodup := by
  rw [← h, List.nodup_map_iff fun _ _ => Except.ok.inj]

lemma mem_iff_of_map_ok {names : List String} {read : List Identifier}
    (h : read.map Except.ok = names.map Identifier.parse) {i : Identifier} :
    i ∈ read ↔ ∃ s ∈ names, Identifier.parse s = .ok i := by
  have hmem : i ∈ read ↔ (.ok i : Except Error Identifier) ∈ read.map Except.ok :=
    (List.mem_map_of_injective fun _ _ => Except.ok.inj).symm
  rw [hmem, h, List.mem_map]

variable {groups : Groups} {o : Options} {es : List Endpoint} {c : Generated}

/-- The registry imports the errors of its endpoints. -/
lemma errorImports_of_ofEndpoints (hes : Endpoint.ofGroups groups = .ok es) {errorsModule : String}
    {m : Module} (hm : Module.ofEndpoints errorsModule es = .ok m) :
    m.errorImports.map Except.ok = (Endpoint.referencedErrors es).map Identifier.parse := by
  obtain ⟨path, errors, parts, herrors, hparts, hitems⟩ := items_of_ofEndpoints hm
  have himported := flatMap_items Item.imported (fun _ => []) hparts hitems
    fun e he part hpart => by
      obtain ⟨_, _, _, _, _, rfl⟩ := standardItems_spec hes he hpart
      rfl
  have hnil : ((Endpoint.standard es).flatMap fun _ => ([] : List (List Identifier))) = [] :=
    List.flatMap_eq_nil_iff.mpr fun _ _ => rfl
  have himports : m.errorImports = errors := by
    unfold Module.errorImports
    rw [himported, hnil]
    split
    · rename_i hempty
      have hreferenced : Endpoint.referencedErrors es = [] := by
        rw [Endpoint.referencedErrors, List.isEmpty_iff.mp hempty]
        rfl
      rw [hreferenced] at herrors
      cases herrors
      rfl
    · simp [Item.imported, registryImports]
  rw [himports]
  exact map_ok_of_mapM_parse herrors

/-- Each union of the registry has the errors of its endpoint and the variant for failed
validation. -/
lemma unionVariants_of_ofEndpoints (hes : Endpoint.ofGroups groups = .ok es)
    {errorsModule : String} {m : Module} (hm : Module.ofEndpoints errorsModule es = .ok m) :
    m.unionVariants.map (List.map Except.ok) =
      (Endpoint.standard es).map fun e => (e.errors ++ [invalidInput]).map Identifier.parse := by
  obtain ⟨path, errors, parts, _, hparts, hitems⟩ := items_of_ofEndpoints hm
  have hvariants := flatMap_items (fun item => item.unionVariants.map (List.map .ok))
    (fun e => [(e.errors ++ [invalidInput]).map Identifier.parse]) hparts hitems
    fun e he part hpart => by
      obtain ⟨_, _, _, own, hown, rfl⟩ := standardItems_spec hes he hpart
      rw [List.map_append, ← map_ok_of_mapM_parse hown, List.map_singleton, parse_invalidInput]
      simp [Item.unionVariants]
  rw [Module.unionVariants, List.map_flatMap, hvariants, ← List.map_eq_flatMap]
  split <;> simp [Item.unionVariants, registryImports]

/-- The module of the error types defines the errors of all endpoints. -/
lemma errors_of_ofErrors {names : List String} {m : Module} (h : Module.ofErrors names = .ok m) :
    m.errorTypes.map Except.ok = names.map Identifier.parse := by
  unfold Module.ofErrors at h
  obtain ⟨items, hitems, h⟩ := bind_eq_ok_iff.mp h
  cases h
  have hall := (mapM_eq_ok_iff _ _ _).mp hitems
  clear hitems h
  unfold Module.errorTypes
  induction hall with
  | nil => rfl
  | @cons name item _ _ hitem _ ih =>
    unfold errorItem at hitem
    obtain ⟨i, hi, hitem⟩ := bind_eq_ok_iff.mp hitem
    cases hitem
    rw [List.map_cons, hi, ← ih]
    rfl

lemma endpointTypes_registry (hc : IsGenerated groups o es c) :
    c.registry.endpointTypes =
      (Endpoint.standard es).flatMap fun e => e.typeNames.map .plain := by
  obtain ⟨path, errors, parts, _, hparts, hitems⟩ := items_of_ofEndpoints hc.registry
  rw [Module.endpointTypes, flatMap_items Item.endpointTypes (fun e => e.typeNames.map .plain)
    hparts hitems]
  · split <;> simp [Item.endpointTypes, registryImports]
  · intro e he part hpart
    obtain ⟨_, _, _, _, _, rfl⟩ := standardItems_spec hc.endpoints he hpart
    rw [Endpoint.typeNames_of_mem_standard he]
    rfl

lemma endpointTypes_streams (hc : IsGenerated groups o es c) :
    c.streams.endpointTypes =
      (Endpoint.streams es).flatMap fun e => e.typeNames.map .plain := by
  obtain ⟨parts, hparts, hitems⟩ := items_of_ofStreams hc.streams
  rw [Module.endpointTypes, flatMap_items Item.endpointTypes (fun e => e.typeNames.map .plain)
    hparts hitems]
  · split <;> simp [Item.endpointTypes]
  · intro e he part hpart
    obtain ⟨_, _, rfl⟩ := streamItems_spec hc.endpoints he hpart
    rw [Endpoint.typeNames_of_mem_streams he]
    rfl

/-- The markers and unions of a client are those of its endpoints. -/
lemma mem_endpointTypes_iff (hc : IsGenerated groups o es c) {i : Identifier} :
    i ∈ c.registry.endpointTypes ++ c.streams.endpointTypes ↔
      ∃ s ∈ es.flatMap Endpoint.typeNames, Identifier.parse s = .ok i := by
  have hkind : ∀ e, e ∈ Endpoint.standard es ∨ e ∈ Endpoint.streams es ↔ e ∈ es := by
    intro e
    rw [Endpoint.standard, Endpoint.streams, List.mem_filter, List.mem_filter, ← and_or_left]
    exact and_iff_left (by cases e.isStream <;> simp)
  rw [List.mem_append, endpointTypes_registry hc, endpointTypes_streams hc, List.mem_flatMap,
    List.mem_flatMap, ← exists_or]
  constructor
  · rintro ⟨e, h⟩
    rw [← or_and_right, hkind] at h
    obtain ⟨he, hi⟩ := h
    obtain ⟨s, hs, rfl⟩ := List.mem_map.mp hi
    have hmem := List.mem_flatMap.mpr ⟨e, he, hs⟩
    exact ⟨s, hmem, parse_typeName hc hmem⟩
  · rintro ⟨s, hs, hi⟩
    rw [parse_typeName hc hs] at hi
    cases hi
    obtain ⟨e, he, hs⟩ := List.mem_flatMap.mp hs
    refine ⟨e, ?_⟩
    rw [← or_and_right, hkind]
    exact ⟨he, List.mem_map_of_mem hs⟩

/-! ### Errors that are told apart -/

/-- Reading keeps the errors of each endpoint apart from each other and from the variant for failed
validation, the errors of all endpoints apart from each other, and errors apart from types. -/
structure ReadsApart (es : List Endpoint) : Prop where
  variants : ∀ e ∈ Endpoint.standard es, ((e.errors ++ [invalidInput]).map Identifier.parse).Nodup
  errors : ((Endpoint.referencedErrors es).map Identifier.parse).Nodup
  types : ∀ s ∈ Endpoint.referencedErrors es, ∀ t ∈ es.flatMap Endpoint.typeNames,
    Identifier.parse s ≠ Identifier.parse t

lemma nodup_unionVariants_iff (hc : IsGenerated groups o es c) :
    (∀ names ∈ c.registry.unionVariants, names.Nodup) ↔
      ∀ e ∈ Endpoint.standard es, ((e.errors ++ [invalidInput]).map Identifier.parse).Nodup := by
  have hread : (∀ names ∈ c.registry.unionVariants, names.Nodup) ↔
      ∀ read ∈ c.registry.unionVariants.map (List.map
        (Except.ok : Identifier → Except Error Identifier)), read.Nodup := by
    rw [List.forall_mem_map]
    refine forall₂_congr fun names _ => ?_
    rw [List.nodup_map_iff fun _ _ => Except.ok.inj]
  rw [hread, unionVariants_of_ofEndpoints hc.endpoints hc.registry, List.forall_mem_map]

/-- Errors have all their texts from the specification, wherever they stand. -/
lemma mem_errors_iff (hc : IsGenerated groups o es c) {i : Identifier} :
    i ∈ c.registry.errorImports ++ c.errors.toList.flatMap Module.errorTypes ↔
      ∃ s ∈ Endpoint.referencedErrors es, Identifier.parse s = .ok i := by
  have himports := errorImports_of_ofEndpoints hc.endpoints hc.registry
  rw [List.mem_append, mem_iff_of_map_ok himports]
  refine or_iff_left_of_imp fun hi => ?_
  obtain ⟨m, hm, hi⟩ := List.mem_flatMap.mp hi
  exact (mem_iff_of_map_ok (errors_of_ofErrors (hc.errors m (Option.mem_toList.mp hm)))).mp hi

/-- The errors of a client are separate when reading keeps their texts apart. -/
lemma separatesErrors_iff (hc : IsGenerated groups o es c) :
    c.SeparatesErrors ↔ ReadsApart es := by
  have himports := errorImports_of_ofEndpoints hc.endpoints hc.registry
  have hdefined : ∀ m ∈ c.errors, m.errorTypes.map Except.ok =
      (Endpoint.referencedErrors es).map Identifier.parse := fun m hm =>
    errors_of_ofErrors (hc.errors m hm)
  constructor
  · intro h
    refine ⟨(nodup_unionVariants_iff hc).mp h.variants,
      (nodup_iff_of_map_ok himports).mp h.imported, fun s hs t ht hsame => ?_⟩
    have hread := parse_typeName hc ht
    exact h.apart _ ((mem_errors_iff hc).mpr ⟨s, hs, hsame.trans hread⟩)
      ((mem_endpointTypes_iff hc).mpr ⟨t, ht, hread⟩)
  · intro h
    refine ⟨(nodup_unionVariants_iff hc).mpr h.variants,
      (nodup_iff_of_map_ok himports).mpr h.errors,
      fun m hm => (nodup_iff_of_map_ok (hdefined m hm)).mpr h.errors, fun i hi htype => ?_⟩
    obtain ⟨s, hs, hsi⟩ := (mem_errors_iff hc).mp hi
    obtain ⟨t, ht, hti⟩ := (mem_endpointTypes_iff hc).mp htype
    exact h.types s hs t ht (hsi.trans hti.symm)

/-- Reading keeps apart what the errors must not be, since types are read as they stand. -/
lemma injOn_typeNames (hc : IsGenerated groups o es c) :
    Set.InjOn Identifier.parse {s | s = invalidInput ∨ s ∈ es.flatMap Endpoint.typeNames} := by
  have hread : ∀ s, s = invalidInput ∨ s ∈ es.flatMap Endpoint.typeNames →
      Identifier.parse s = .ok (.plain s) := by
    rintro s (rfl | hs)
    · exact parse_invalidInput
    · exact parse_typeName hc hs
  intro s hs t ht hsame
  rw [hread s hs, hread t ht] at hsame
  exact congrArg Identifier.name (Except.ok.inj hsame)

/-- As texts, errors are none of the names that they must not be: validation compares them. -/
lemma not_taken_of_mem_referencedErrors (hc : IsGenerated groups o es c) {s : String}
    (hs : s ∈ Endpoint.referencedErrors es) :
    ¬ (s = invalidInput ∨ s ∈ es.flatMap Endpoint.typeNames) := by
  obtain ⟨e, he, hs⟩ := Endpoint.mem_referencedErrors_iff.mp hs
  have hfree : IsFreeError es s :=
    ((checkNames_eq_ok_iff groups es).mp hc.checked).2 (e, s)
      (List.mem_flatMap.mpr ⟨e, he, List.mem_map_of_mem hs⟩)
  rintro (hinvalid | htype)
  · exact hfree.1 hinvalid
  · exact hfree.2 (List.mem_append_right _ htype)

/-- The variants of an endpoint are read apart when its errors are, and none is read as the variant
for failed validation. -/
lemma nodup_variants_iff (e : Endpoint) :
    ((e.errors ++ [invalidInput]).map Identifier.parse).Nodup ↔
      Identifier.parse invalidInput ∉ e.errors.map Identifier.parse ∧
        (e.errors.map Identifier.parse).Nodup := by
  rw [List.map_append, List.map_singleton, ← List.concat_eq_append, List.nodup_concat]

/-- Reading keeps all the texts apart when it keeps the errors apart from each other and from what
they must not be. -/
lemma injOn_comparedNames_iff (hc : IsGenerated groups o es c) :
    Set.InjOn Identifier.parse (comparedNames es) ↔ ReadsApart es := by
  have herrors : ((Endpoint.referencedErrors es).map Identifier.parse).Nodup ↔
      Set.InjOn Identifier.parse {s | s ∈ Endpoint.referencedErrors es} :=
    List.nodup_map_iff_inj_on (Endpoint.nodup_distinct _)
  have hreferenced : ∀ {e s}, e ∈ Endpoint.standard es → s ∈ e.errors →
      s ∈ Endpoint.referencedErrors es := fun he hs =>
    Endpoint.mem_referencedErrors_iff.mpr ⟨_, he, hs⟩
  have hdisjoint : Disjoint {s | s ∈ Endpoint.referencedErrors es}
      {s | s = invalidInput ∨ s ∈ es.flatMap Endpoint.typeNames} :=
    Set.disjoint_left.mpr fun _ => not_taken_of_mem_referencedErrors hc
  rw [comparedNames, Set.injOn_union hdisjoint]
  constructor
  · rintro ⟨hinj, _, happart⟩
    refine ⟨fun e he => (nodup_variants_iff e).mpr ⟨fun hmem => ?_, ?_⟩, herrors.mpr hinj,
      fun s hs t ht => happart s hs t (.inr ht)⟩
    · obtain ⟨s, hs, hsame⟩ := List.mem_map.mp hmem
      exact happart s (hreferenced he hs) _ (.inl rfl) hsame
    · exact (List.nodup_map_iff_inj_on (Endpoint.nodup_errors e)).mpr fun s hs t ht =>
        hinj (hreferenced he hs) (hreferenced he ht)
  · intro h
    refine ⟨herrors.mp h.errors, injOn_typeNames hc, ?_⟩
    rintro s hs t (rfl | ht) hsame
    · obtain ⟨e, he, hs⟩ := Endpoint.mem_referencedErrors_iff.mp hs
      exact ((nodup_variants_iff e).mp (h.variants e he)).1 (List.mem_map.mpr ⟨s, hs, hsame⟩)
    · exact h.types s hs t ht hsame

/-! ### Compiled clients -/

/-- The errors of a compiled client are distinct from each other, from the variant for failed
validation and from the markers and unions exactly when reading keeps their texts apart. That is so
when the texts of the errors have nothing that reading passes over. -/
theorem separatesErrors_of_compile {η : Type} {files : Artifacts}
    (h : (compile groups o : Traced η Artifacts).result = .ok files) :
    ∃ es c, IsGenerated groups o es c ∧ files.find? "endpoints.rs" = some c.registry.text ∧
      files.find? "stream_endpoints.rs" = some c.streams.text ∧
      (∀ m ∈ c.errors, files.find? errorsFile = some m.text) ∧
      (c.SeparatesErrors ↔ Set.InjOn Identifier.parse (comparedNames es)) ∧
      ((∀ s ∈ Endpoint.referencedErrors es, ∀ ch ∈ s.toList, IsInner ch) →
        c.SeparatesErrors) := by
  obtain ⟨es, c, hc, hregistry, hstreams, herrors⟩ := exists_registries_of_compile h
  have hiff : c.SeparatesErrors ↔ Set.InjOn Identifier.parse (comparedNames es) :=
    (separatesErrors_iff hc).trans (injOn_comparedNames_iff hc).symm
  refine ⟨es, c, hc, hregistry, hstreams, herrors, hiff, fun hinner => hiff.mpr ?_⟩
  have hparsed : ∀ s ∈ comparedNames es, (∀ ch ∈ s.toList, IsInner ch) ∧
      ∃ i, Identifier.parse s = .ok i := by
    rintro s (hs | rfl | hs)
    · obtain ⟨_, _, _, hread, _⟩ := items_of_ofEndpoints hc.registry
      obtain ⟨i, _, hi⟩ := exists_of_mapM_of_mem hread hs
      exact ⟨hinner s hs, i, hi⟩
    · exact ⟨fun ch hch => isInner_of_not_isSeparator (not_isSeparator_of_mem_invalidInput ch hch),
        _, parse_invalidInput⟩
    · obtain ⟨e, he, hname⟩ := List.mem_flatMap.mp hs
      refine ⟨fun ch hch => isInner_of_not_isSeparator ?_, _, parse_typeName hc hs⟩
      exact Endpoint.not_isSeparator_of_mem_typeNames hc.endpoints he hname ch hch
  intro s hs t ht hsame
  obtain ⟨hsInner, i, hi⟩ := hparsed s hs
  obtain ⟨htInner, _⟩ := hparsed t ht
  exact Identifier.parse_inj hsInner htInner hi (hsame ▸ hi)

/-- Two endpoints that share an error, and a stream. -/
def ticketGroups : Groups :=
  [("tickets", [
    { Operation.new "getTicket" .get "/tickets" with errors := ["NotFound", "Expired"] },
    { Operation.new "closeTicket" .put "/tickets" with errors := ["Expired", "r#Closed"] },
    { Operation.new "watchTickets" .get "/tickets" with kind := .stream }])]

theorem separatesErrors_ticketGroups : ∃ files es c,
    (compile ticketGroups .standard : Traced Unit Artifacts).result = .ok files ∧
    IsGenerated ticketGroups .standard es c ∧ files.find? "endpoints.rs" = some c.registry.text ∧
    Endpoint.referencedErrors es = ["NotFound", "Expired", "r#Closed"] ∧ c.SeparatesErrors := by
  obtain ⟨files, hfiles⟩ :
      ∃ files, (compile ticketGroups .standard : Traced Unit Artifacts).result = .ok files :=
    exists_eq_ok (by decide +kernel)
  obtain ⟨es, c, hc, hregistry, _, _, _, hinner⟩ := separatesErrors_of_compile hfiles
  have herrors : Endpoint.referencedErrors es = ["NotFound", "Expired", "r#Closed"] := by
    have hes := hc.endpoints
    cases hes
    decide +kernel
  refine ⟨files, es, c, hfiles, hc, hregistry, herrors, hinner ?_⟩
  have hall : ∀ s ∈ ["NotFound", "Expired", "r#Closed"],
      (s.toList.all fun ch => decide (IsInner ch)) = true := by
    decide
  rw [herrors]
  exact fun s hs ch hch => of_decide_eq_true (List.all_eq_true.mp (hall s hs) ch hch)

/-- An endpoint with errors that differ in blanks from each other and from the variant for failed
validation. -/
def spacedGroups : Groups :=
  [("items", [
    { Operation.new "getItem" .get "/items" with
      errors := ["NotFound", " NotFound", "InvalidInput "] }])]

/-- The group compiles, its error union has two variants twice, and an error is imported twice and
defined twice. -/
theorem spacedGroups_accepted : ∃ files es c,
    (compile spacedGroups .standard : Traced Unit Artifacts).result = .ok files ∧
    IsGenerated spacedGroups .standard es c ∧ files.find? "endpoints.rs" = some c.registry.text ∧
    c.registry.unionVariants =
      [["NotFound", "NotFound", "InvalidInput", "InvalidInput"].map .plain] ∧
    c.registry.errorImports = ["NotFound", "NotFound", "InvalidInput"].map .plain ∧
    c.errors.map Module.errorTypes = some (["NotFound", "NotFound", "InvalidInput"].map .plain) ∧
    ¬ c.SeparatesErrors := by
  obtain ⟨files, hfiles⟩ :
      ∃ files, (compile spacedGroups .standard : Traced Unit Artifacts).result = .ok files :=
    exists_eq_ok (by decide +kernel)
  obtain ⟨es, c, hc, hregistry, _, _⟩ := exists_registries_of_compile hfiles
  have hes := hc.endpoints
  have hm := hc.registry
  obtain ⟨errors, herrors⟩ := Option.isSome_iff_exists.mp (hc.isSome_errors.trans rfl)
  have hdefined := hc.errors errors herrors
  have hvariants : c.registry.unionVariants =
      [["NotFound", "NotFound", "InvalidInput", "InvalidInput"].map .plain] := by
    generalize c.registry = m at hm ⊢
    cases hes
    cases hm
    decide +kernel
  refine ⟨files, es, c, hfiles, hc, hregistry, hvariants, ?_, ?_, fun hseparates => ?_⟩
  · generalize c.registry = m at hm ⊢
    cases hes
    cases hm
    decide +kernel
  · rw [herrors]
    cases hes
    cases hdefined
    decide +kernel
  · have hnodup := hseparates.variants _ (hvariants ▸ List.mem_singleton_self _)
    revert hnodup
    decide

end ApiContract.Client
