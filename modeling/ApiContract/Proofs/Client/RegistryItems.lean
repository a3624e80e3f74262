import ApiContract.Proofs.Client.Artifacts
import ApiContract.Proofs.Client.Modules

/-!
# The items of registries

What a registry holds for each endpoint, item by item. The names of types that an endpoint brings
along, its marker and its error union, are read as they stand (`eq_plain_of_parse_typeName`). The
errors are whatever the texts of the specification are read as; they are read once for the imports,
once for the union of each endpoint, and once more for the module of the error types.
-/

namespace ApiContract.Client

open Code

/-! ### Names of types -/

namespace Endpoint

variable {groups : Groups} {es : List Endpoint} {e : Endpoint}

lemma marker_mem_typeNames (e : Endpoint) : e.marker ∈ e.typeNames := by
  unfold typeNames
  split
  · exact List.mem_singleton_self _
  · exact List.mem_cons_self

lemma mem_typeNames_iff {name : String} :
    name ∈ e.typeNames ↔ name = e.marker ∨ e.isStream = false ∧ name = e.unionName := by
  unfold typeNames
  cases e.isStream <;> simp

lemma typeNames_of_mem_standard (he : e ∈ standard es) : e.typeNames = [e.marker, e.unionName] := by
  have hstandard : e.isStream = false := by simpa using (List.mem_filter.mp he).2
  rw [typeNames, hstandard]
  rfl

lemma typeNames_of_mem_streams (he : e ∈ streams es) : e.typeNames = [e.marker] := by
  have hstream : e.isStream = true := (List.mem_filter.mp he).2
  rw [typeNames, hstream]
  rfl

/-- The names of types are made of words. -/
lemma not_isSeparator_of_mem_typeNames (hes : ofGroups groups = .ok es) (he : e ∈ es)
    {name : String} (hname : name ∈ e.typeNames) : ∀ c ∈ name.toList, ¬ Text.IsSeparator c := by
  obtain ⟨operation, variant, hmarker⟩ := exists_marker_eq hes he
  have hsep : ∀ c ∈ e.marker.toList, ¬ Text.IsSeparator c := by
    rw [hmarker]
    exact not_isSeparator_of_mem_markerName
  rcases mem_typeNames_iff.mp hname with rfl | ⟨_, rfl⟩
  · exact hsep
  · intro c hc
    rw [unionName, String.toList_append, List.mem_append] at hc
    rcases hc with hc | hc
    · exact hsep c hc
    · have hword : "Error".toList.all Text.isWordChar = true := by decide +kernel
      exact Text.not_isSeparator_of_all hword c hc

end Endpoint

/-- The identifier of a type is its name. -/
lemma eq_plain_of_parse_typeName {groups : Groups} {es : List Endpoint} {e : Endpoint}
    (hes : Endpoint.ofGroups groups = .ok es) (he : e ∈ es) {name : String}
    (hname : name ∈ e.typeNames) {i : Identifier} (h : Identifier.parse name = .ok i) :
    i = .plain name :=
  eq_plain_of_parse
    (fun c hc => .inr (Endpoint.not_isSeparator_of_mem_typeNames hes he hname c hc)) h

lemma not_isSeparator_of_mem_invalidInput : ∀ c ∈ invalidInput.toList, ¬ Text.IsSeparator c :=
  Text.not_isSeparator_of_all (by decide +kernel)

lemma parse_invalidInput : Identifier.parse invalidInput = .ok (.plain invalidInput) := by
  obtain ⟨i, hi⟩ : ∃ i, Identifier.parse invalidInput = .ok i := exists_eq_ok (by decide +kernel)
  rw [hi, eq_plain_of_parse (fun c hc => .inr (not_isSeparator_of_mem_invalidInput c hc)) hi]

/-! ### Errors -/

namespace Endpoint

/-- A list without repetitions has each item at its first place. -/
theorem distinct_eq_eraseDups (items : List String) : distinct items = items.eraseDups := by
  induction items using List.reverseRecOn with
  | nil => rfl
  | append_singleton items x ih =>
    have hstep : distinct (items ++ [x]) =
        if (distinct items).contains x then distinct items else distinct items ++ [x] := by
      rw [distinct, List.foldl_append]
      rfl
    rw [hstep, ih, eraseDups_concat]
    simp only [List.contains_iff_mem, List.mem_eraseDups]

lemma nodup_distinct (items : List String) : (distinct items).Nodup := by
  rw [distinct_eq_eraseDups]
  exact nodup_eraseDups items

lemma mem_distinct_iff {items : List String} {s : String} : s ∈ distinct items ↔ s ∈ items := by
  rw [distinct_eq_eraseDups, List.mem_eraseDups]

/-- No endpoint has an error twice. -/
lemma nodup_errors (e : Endpoint) : e.errors.Nodup := by
  unfold errors
  split
  · exact List.nodup_singleton _
  · exact nodup_distinct _

lemma mem_referencedErrors_iff {es : List Endpoint} {s : String} :
    s ∈ referencedErrors es ↔ ∃ e ∈ standard es, s ∈ e.errors := by
  rw [referencedErrors, mem_distinct_iff, List.mem_flatMap]

end Endpoint

/-! ### Items of endpoints -/

variable {groups : Groups} {es : List Endpoint} {e : Endpoint}

/-- An endpoint that answers once has its marker, its implementation and the union of its errors,
those of the specification first. -/
lemma standardItems_spec (hes : Endpoint.ofGroups groups = .ok es) (he : e ∈ Endpoint.standard es)
    {items : List Item} (h : standardItems e = .ok items) :
    Identifier.parse e.marker = .ok (.plain e.marker) ∧
    Identifier.parse e.unionName = .ok (.plain e.unionName) ∧
    ∃ schema errors, e.errors.mapM Identifier.parse = .ok errors ∧
      items = [.marker (markerDoc e) (.plain e.marker),
        .endpoint (.plain e.marker) e.key.text schema e.operation.outputFormat
          (.plain e.unionName),
        .union (.plain e.marker) (.plain e.unionName) errors (.plain invalidInput)] := by
  obtain ⟨hmem, hstandard⟩ := List.mem_filter.mp he
  have hunion : e.unionName ∈ e.typeNames :=
    Endpoint.mem_typeNames_iff.mpr (.inr ⟨by simpa using hstandard, rfl⟩)
  unfold standardItems at h
  obtain ⟨marker, hmarker, h⟩ := bind_eq_ok_iff.mp h
  obtain ⟨union, hunionName, h⟩ := bind_eq_ok_iff.mp h
  obtain ⟨schema, _, h⟩ := bind_eq_ok_iff.mp h
  obtain ⟨invalid, hinvalid, h⟩ := bind_eq_ok_iff.mp h
  obtain ⟨errors, herrors, h⟩ := bind_eq_ok_iff.mp h
  cases h
  obtain rfl : Identifier.plain invalidInput = invalid :=
    Except.ok.inj (parse_invalidInput.symm.trans hinvalid)
  obtain rfl := eq_plain_of_parse_typeName hes hmem (Endpoint.marker_mem_typeNames e) hmarker
  obtain rfl := eq_plain_of_parse_typeName hes hmem hunion hunionName
  exact ⟨hmarker, hunionName, schema, errors, herrors, rfl⟩

/-- A stream has its marker and its implementation. -/
lemma streamItems_spec (hes : Endpoint.ofGroups groups = .ok es) (he : e ∈ Endpoint.streams es)
    {items : List Item} (h : streamItems e = .ok items) :
    Identifier.parse e.marker = .ok (.plain e.marker) ∧
    ∃ schema, items = [.marker (markerDoc e) (.plain e.marker),
      .streamEndpoint (.plain e.marker) e.key.text schema e.operation.outputFormat] := by
  unfold streamItems at h
  obtain ⟨marker, hmarker, h⟩ := bind_eq_ok_iff.mp h
  obtain ⟨schema, _, h⟩ := bind_eq_ok_iff.mp h
  cases h
  obtain rfl := eq_plain_of_parse_typeName hes (List.mem_of_mem_filter he)
    (Endpoint.marker_mem_typeNames e) hmarker
  exact ⟨hmarker, schema, rfl⟩

/-! ### Items of modules -/

/-- The registry of endpoints that answer once imports the traits and the errors if it has an
endpoint, and ends with the list of keys. -/
lemma items_of_ofEndpoints {errorsModule : String} {m : Module}
    (h : Module.ofEndpoints errorsModule es = .ok m) :
    ∃ path errors parts, (Endpoint.referencedErrors es).mapM Identifier.parse = .ok errors ∧
      List.Forall₂ (fun e items => standardItems e = .ok items) (Endpoint.standard es) parts ∧
      m.items = (if (Endpoint.standard es).isEmpty then [] else registryImports path errors) ++
        parts.flatten ++ [.keyList " Keys of every standard endpoint, in declaration order."
          (.plain "ENDPOINT_KEYS") (keyTexts (Endpoint.standard es))] := by
  unfold Module.ofEndpoints at h
  obtain ⟨path, _, h⟩ := bind_eq_ok_iff.mp h
  obtain ⟨errors, herrors, h⟩ := bind_eq_ok_iff.mp h
  obtain ⟨parts, hparts, h⟩ := bind_eq_ok_iff.mp h
  obtain ⟨_, _, h⟩ := bind_eq_ok_iff.mp h
  cases h
  exact ⟨path, errors, parts, herrors, (mapM_eq_ok_iff _ _ _).mp hparts, rfl⟩

lemma items_of_ofStreams {m : Module} (h : Module.ofStreams es = .ok m) :
    ∃ parts,
      List.Forall₂ (fun e items => streamItems e = .ok items) (Endpoint.streams es) parts ∧
      m.items = (if (Endpoint.streams es).isEmpty then [] else
          [.imports "crate::runtime" [.plain "StreamEndpoint"]]) ++
        parts.flatten ++ [.keyList " Keys of every streaming endpoint, in declaration order."
          (.plain "STREAM_ENDPOINT_KEYS") (keyTexts (Endpoint.streams es))] := by
  unfold Module.ofStreams at h
  obtain ⟨parts, hparts, h⟩ := bind_eq_ok_iff.mp h
  cases h
  exact ⟨parts, (mapM_eq_ok_iff _ _ _).mp hparts, rfl⟩

/-- What a registry shows is what its imports show, then what each endpoint shows, in order, and
last what the list of keys shows. -/
lemma flatMap_items {γ : Type} {generate : Endpoint → Except Error (List Item)}
    {own : List Endpoint} {parts : List (List Item)} {items imports : List Item} {keyList : Item}
    (view : Item → List γ) (shown : Endpoint → List γ)
    (hparts : List.Forall₂ (fun e part => generate e = .ok part) own parts)
    (hitems : items = imports ++ parts.flatten ++ [keyList])
    (hview : ∀ e ∈ own, ∀ part, generate e = .ok part → part.flatMap view = shown e) :
    items.flatMap view = imports.flatMap view ++ own.flatMap shown ++ view keyList := by
  have hmap : parts.map (List.flatMap view) = own.map shown := map_eq_map_of_forall₂ hparts hview
  have hflatten : parts.flatten.flatMap view = own.flatMap shown := by
    rw [List.flatMap_def (l := own), ← hmap, ← List.flatMap_id, List.flatMap_assoc,
      List.flatMap_def]
    rfl
  rw [hitems, List.flatMap_append, List.flatMap_append, hflatten, List.flatMap_singleton]

/-- What neither the imports nor the list of keys show is shown by an endpoint. -/
lemma exists_of_mem_items {γ : Type} {generate : Endpoint → Except Error (List Item)}
    {own : List Endpoint} {parts : List (List Item)} {items imports : List Item} {keyList : Item}
    {view : Item → List γ}
    (hparts : List.Forall₂ (fun e part => generate e = .ok part) own parts)
    (hitems : items = imports ++ parts.flatten ++ [keyList]) (himports : imports.flatMap view = [])
    (hkeys : view keyList = []) {x : γ} (hx : x ∈ items.flatMap view) :
    ∃ e ∈ own, ∃ part, generate e = .ok part ∧ x ∈ part.flatMap view := by
  rw [hitems, List.flatMap_append, List.flatMap_append, himports, List.flatMap_singleton, hkeys,
    List.append_nil, List.nil_append] at hx
  obtain ⟨item, hitem, hx⟩ := List.mem_flatMap.mp hx
  obtain ⟨part, hpart, hitem⟩ := List.mem_flatten.mp hitem
  obtain ⟨e, he, hof⟩ := exists_mem_of_forall₂ hparts.flip hpart
  exact ⟨e, he, part, hof, List.mem_flatMap.mpr ⟨item, hitem, hx⟩⟩

/-- The names of types that endpoints bring along are read as they stand. -/
lemma parse_typeName {o : Options} {c : Generated} (hc : IsGenerated groups o es c) {name : String}
    (hname : name ∈ es.flatMap Endpoint.typeNames) :
    Identifier.parse name = .ok (.plain name) := by
  obtain ⟨e, he, hname⟩ := List.mem_flatMap.mp hname
  cases hstream : e.isStream with
  | true =>
    have hmem : e ∈ Endpoint.streams es := List.mem_filter.mpr ⟨he, hstream⟩
    obtain ⟨parts, hparts, _⟩ := items_of_ofStreams hc.streams
    obtain ⟨items, _, hitems⟩ := exists_mem_of_forall₂ hparts hmem
    rw [Endpoint.typeNames_of_mem_streams hmem, List.mem_singleton] at hname
    rw [hname]
    exact (streamItems_spec hc.endpoints hmem hitems).1
  | false =>
    have hmem : e ∈ Endpoint.standard es := List.mem_filter.mpr ⟨he, by simp [hstream]⟩
    obtain ⟨_, _, parts, _, hparts, _⟩ := items_of_ofEndpoints hc.registry
    obtain ⟨items, _, hitems⟩ := exists_mem_of_forall₂ hparts hmem
    obtain ⟨hmarker, hunion, _⟩ := standardItems_spec hc.endpoints hmem hitems
    rcases Endpoint.mem_typeNames_iff.mp hname with rfl | ⟨_, rfl⟩
    · exact hmarker
    · exact hunion

/-! ### Compiled registries -/

/-- Groups that compile have both registries and, unless it is supplied or elsewhere, the module of
the error types among their files. -/
theorem exists_registries_of_compile {η : Type} {o : Options} {files : Artifacts}
    (h : (compile groups o : Traced η Artifacts).result = .ok files) :
    ∃ es c, IsGenerated groups o es c ∧ files.find? "endpoints.rs" = some c.registry.text ∧
      files.find? "stream_endpoints.rs" = some c.streams.text ∧
      ∀ m ∈ c.errors, files.find? errorsFile = some m.text := by
  obtain ⟨es, c, hc, rfl, hnodup⟩ := exists_generated_of_compile h
  refine ⟨es, c, hc, Generated.find?_files hnodup ?_, Generated.find?_files hnodup ?_,
    fun m hm => Generated.find?_files hnodup ?_⟩
  · simp [Generated.files, Generated.filesAfterGroups]
  · simp [Generated.files, Generated.filesAfterGroups]
  · simp only [Generated.files, Generated.filesBeforeGroups, List.mem_append]
    exact .inl (.inl (.inl (.inr (List.mem_map_of_mem (Option.mem_toList.mpr hm)))))

end ApiContract.Client
