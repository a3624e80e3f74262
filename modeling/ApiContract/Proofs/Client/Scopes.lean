import ApiContract.Proofs.Client.DispatchTables
import ApiContract.Proofs.Client.ErrorNames
import Mathlib.Data.List.Flatten

/-!
# Scopes of registries

A registry brings names into its scope: imported traits and errors, a marker and an error union for
each endpoint, and the list of keys. It also uses names that are meant for something outside, in the
types that endpoints answer with and in derived implementations. Everything means what it should
when no name comes in twice and none of them is one of those from outside (`KeepsMeaning`).

Validation keeps the markers and unions apart from each other and from the names of the runtime. The
names from outside it does not look at: a marker may be `String` or `Vec`, and an error may be any
of them, or the list of keys. `keepsMeaning_of_compile` says exactly when that goes well.
-/

namespace ApiContract.Client

open Code

/-! ### Views -/

/-- The names that the type of an answer is written with and that stand for something outside the
client. -/
def outputNames : OutputFormat → List String
  | .json => ["serde_json"]
  | .text => ["String"]
  | .binary => ["Vec", "u8"]
  | .empty => []

/-- The names that some registry uses for something outside the client. -/
def foreignNames : List String := ["str", "serde_json", "thiserror", "String", "Vec", "u8"]

namespace Item

/-- The names that an item of a registry brings into the namespace of types. -/
def typeScope : Item → List String
  | .imports _ names => names.map Identifier.name
  | .marker _ name | .union _ name _ _ => [name.name]
  | _ => []

/-- The names that an item of a registry brings into the namespace of values. Markers are values as
well, and so are errors, which have no data; the types of the runtime are not. -/
def valueScope : Item → List String
  | .imports _ names => (names.map Identifier.name).filter fun name => !supportTypes.contains name
  | .marker _ name | .keyList _ name _ => [name.name]
  | _ => []

/-- The names that an item of a registry uses for something that is to be in its scope. -/
def insideNames : Item → List String
  | .endpoint owner _ _ _ errors => ["Endpoint", owner.name, errors.name]
  | .streamEndpoint owner _ _ _ => ["StreamEndpoint", owner.name]
  | .union owner _ errors _ =>
    errors.map Identifier.name ++ ["ParseFailure", owner.name, "Endpoint"]
  | _ => []

/-- The names that an item of a registry uses for something outside the client. -/
def outsideNames : Item → List String
  | .endpoint _ _ _ format _ | .streamEndpoint _ _ _ format =>
    ["str", "serde_json"] ++ outputNames format
  | .union .. => ["thiserror"]
  | .keyList .. => ["str"]
  | _ => []

end Item

namespace Module

/-- The names in the namespace of types. -/
def typeScope (m : Module) : List String := m.items.flatMap Item.typeScope

/-- The names in the namespace of values. -/
def valueScope (m : Module) : List String := m.items.flatMap Item.valueScope

/-- The names that are used for something in the scope. -/
def insideNames (m : Module) : List String := m.items.flatMap Item.insideNames

/-- The names that are used for something outside. -/
def outsideNames (m : Module) : List String := m.items.flatMap Item.outsideNames

/-- The names of a registry mean what they should: none is in a namespace twice, those for something
in the scope are there, and those for something outside are not. -/
structure KeepsMeaning (m : Module) : Prop where
  types : m.typeScope.Nodup
  values : m.valueScope.Nodup
  inside : ∀ name ∈ m.insideNames, name ∈ m.typeScope
  outside : ∀ name ∈ m.outsideNames, name ∉ m.typeScope

end Module

/-! ### Markers and unions -/

variable {groups : Groups} {o : Options} {es own : List Endpoint} {c : Generated}

/-- A name that starts with a small letter is no marker. -/
lemma marker_ne_of_small {e : Endpoint} (hes : Endpoint.ofGroups groups = .ok es) (he : e ∈ es)
    {name : String} {first : Char} (hfirst : name.toList.head? = some first)
    (hsmall : first.toNat ∈ Text.smallLetters) : e.marker ≠ name := by
  intro hname
  obtain ⟨operation, variant, hmarker⟩ := Endpoint.exists_marker_eq hes he
  rw [← hname, hmarker] at hfirst
  exact not_small_of_head?_markerName hfirst hsmall

/-- A list of keys has an underscore in its name, which no marker has. -/
lemma not_mem_markers_of_underscore {keyList : String} (hkeys : '_' ∈ keyList.toList)
    (hes : Endpoint.ofGroups groups = .ok es) (hown : own.Sublist es) :
    keyList ∉ own.map Endpoint.marker := by
  intro hmem
  obtain ⟨e, he, rfl⟩ := List.mem_map.mp hmem
  exact Endpoint.not_isSeparator_of_mem_typeNames hes (hown.subset he)
    (Endpoint.marker_mem_typeNames e) '_' hkeys (by decide)

/-- What is meant for something outside is a marker, if it is one of the types of an endpoint:
unions have another ending. -/
lemma eq_marker_of_mem_outside {e : Endpoint} {name : String} (hname : name ∈ e.typeNames)
    (houtside : name ∈ foreignNames) :
    name = e.marker := by
  rcases Endpoint.mem_typeNames_iff.mp hname with rfl | ⟨_, rfl⟩
  · rfl
  · have hending : ∀ n ∈ foreignNames,
        ¬ "Error".toList.isSuffixOf n.toList := by decide
    refine absurd ?_ (hending _ houtside)
    rw [List.isSuffixOf_iff_suffix, Endpoint.unionName, String.toList_append]
    exact List.suffix_append _ _

/-- What all registries use from outside is no marker. -/
lemma marker_not_mem_always {e : Endpoint} (hes : Endpoint.ofGroups groups = .ok es) (he : e ∈ es) :
    e.marker ∉ ["str", "serde_json", "thiserror"] := by
  simp only [List.mem_cons, List.not_mem_nil, or_false, not_or]
  exact ⟨marker_ne_of_small hes he rfl (by decide), marker_ne_of_small hes he rfl (by decide),
    marker_ne_of_small hes he rfl (by decide)⟩

lemma mem_outside_of_mem_outputNames {format : OutputFormat} {name : String}
    (h : name ∈ outputNames format) :
    name ∈ foreignNames := by
  have hall : ∀ n ∈ outputNames format,
      n ∈ foreignNames := by
    cases format <;> decide
  exact hall name h

/-! ### Scopes -/

/-- Names that are put among others are distinct when they are distinct from each other and from
the others. -/
lemma nodup_insert_iff (before added after : List String) (h : (before ++ after).Nodup) :
    (before ++ added ++ after).Nodup ↔ added.Nodup ∧ ∀ a ∈ added, a ∉ before ++ after := by
  have hperm : (before ++ added ++ after).Perm (added ++ (before ++ after)) := by
    rw [← List.append_assoc]
    exact List.perm_append_comm.append_right _
  rw [hperm.nodup_iff, List.nodup_append]
  constructor
  · rintro ⟨hadded, _, happart⟩
    exact ⟨hadded, fun a ha hmem => happart a ha a hmem rfl⟩
  · rintro ⟨hadded, happart⟩
    refine ⟨hadded, h, ?_⟩
    rintro a ha _ hmem rfl
    exact happart a ha hmem

/-- What the scope of a registry is made of: the imported types of the runtime, the imported errors,
the types of its own endpoints and its list of keys. Each endpoint uses `always` from outside, and
the names in the type of its answer. -/
structure HasScope (own : List Endpoint) (imports errors : List String) (keyList : String)
    (always : List String) (m : Module) : Prop where
  types : m.typeScope = imports ++ errors ++ own.flatMap Endpoint.typeNames
  values : m.valueScope = (errors.filter fun name => !supportTypes.contains name) ++
    (own.map Endpoint.marker ++ [keyList])
  inside : ∀ name ∈ m.insideNames, name ∈ m.typeScope
  outside : ∀ name, name ∈ m.outsideNames ↔
    name = "str" ∨ ∃ e ∈ own, name ∈ always ++ outputNames e.operation.outputFormat

/-- The errors are distinct, none of them is another name in the scope or one from outside, and no
marker is a name in the type of an answer. -/
structure IsFreeScope (own : List Endpoint) (imports errors : List String) (keyList : String)
    (always : List String) : Prop where
  distinct : errors.Nodup
  taken : ∀ name ∈ errors, name ∉ imports ++ [keyList, "str"] ∧
    ∀ e ∈ own, name ∉ e.typeNames ++ (always ++ outputNames e.operation.outputFormat)
  markers : ∀ e ∈ own, ∀ e' ∈ own, e.marker ∉ outputNames e'.operation.outputFormat

section Scope

variable {imports errors always : List String} {keyList : String} {m : Module}

lemma HasScope.isFreeScope (h : HasScope own imports errors keyList always m)
    (hsupport : keyList ∉ supportTypes) (hm : m.KeepsMeaning) :
    IsFreeScope own imports errors keyList always := by
  have htypes := hm.types
  have hvalues := hm.values
  rw [h.types, List.append_assoc, List.nodup_append, List.nodup_append] at htypes
  rw [h.values, List.nodup_append] at hvalues
  obtain ⟨_, ⟨herrors, _, hown⟩, himports⟩ := htypes
  obtain ⟨_, _, hkeys⟩ := hvalues
  have hscope : ∀ name ∈ errors, name ∈ m.typeScope := by
    intro name hname
    rw [h.types]
    exact List.mem_append_left _ (List.mem_append_right _ hname)
  refine ⟨herrors, fun name hname => ⟨fun htaken => ?_, fun e he htaken => ?_⟩,
    fun e he e' he' hout => ?_⟩
  · simp only [List.mem_append, List.mem_cons, List.not_mem_nil, or_false] at htaken
    rcases htaken with himport | rfl | rfl
    · exact himports name himport name (List.mem_append_left _ hname) rfl
    · have hvalue : name ∈ errors.filter fun n => !supportTypes.contains n :=
        List.mem_filter.mpr ⟨hname, by simpa using hsupport⟩
      exact hkeys name hvalue name (List.mem_append_right _ (List.mem_singleton_self _)) rfl
    · exact hm.outside "str" ((h.outside _).mpr (.inl rfl)) (hscope _ hname)
  · rcases List.mem_append.mp htaken with htype | hout
    · exact hown name hname name (List.mem_flatMap.mpr ⟨e, he, htype⟩) rfl
    · exact hm.outside name ((h.outside name).mpr (.inr ⟨e, he, hout⟩)) (hscope name hname)
  · refine hm.outside e.marker
      ((h.outside _).mpr (.inr ⟨e', he', List.mem_append_right _ hout⟩)) ?_
    rw [h.types]
    exact List.mem_append_right _
      (List.mem_flatMap.mpr ⟨e, he, Endpoint.marker_mem_typeNames e⟩)

lemma HasScope.keepsMeaning (h : HasScope own imports errors keyList always m)
    (hes : Endpoint.ofGroups groups = .ok es) (hdistinct : DistinctNames groups es)
    (hown : own.Sublist es) (himports : imports.Sublist supportTypes)
    (hkeys : '_' ∈ keyList.toList)
    (halways : ∀ name ∈ always, name ∈ ["str", "serde_json", "thiserror"])
    (hfree : IsFreeScope own imports errors keyList always) : m.KeepsMeaning := by
  have hbase : (imports ++ own.flatMap Endpoint.typeNames).Nodup :=
    hdistinct.types.sublist (himports.append (hown.flatMap _))
  have hmarkers : (own.map Endpoint.marker ++ [keyList]).Nodup := by
    rw [← List.concat_eq_append, List.nodup_concat]
    exact ⟨not_mem_markers_of_underscore hkeys hes hown, nodup_markers_of_distinct hdistinct hown⟩
  have htype : ∀ name ∈ errors, name ∉ own.flatMap Endpoint.typeNames := by
    intro name hname hmem
    obtain ⟨e, he, hmem⟩ := List.mem_flatMap.mp hmem
    exact (hfree.taken name hname).2 e he (List.mem_append_left _ hmem)
  -- What is used from outside is no import and no union, and a marker only if it is in an answer.
  have hforeign : ∀ name ∈ m.outsideNames,
      name ∈ foreignNames := by
    intro name hname
    rcases (h.outside name).mp hname with rfl | ⟨e, _, hout⟩
    · exact List.mem_cons_self
    · rcases List.mem_append.mp hout with hfixed | hanswer
      · exact List.mem_append_left ["String", "Vec", "u8"] (halways name hfixed)
      · exact mem_outside_of_mem_outputNames hanswer
  refine ⟨?_, ?_, h.inside, fun name hout hmem => ?_⟩
  · rw [h.types, nodup_insert_iff _ _ _ hbase]
    refine ⟨hfree.distinct, fun name hname hmem => ?_⟩
    rcases List.mem_append.mp hmem with himport | hmem
    · exact (hfree.taken name hname).1 (List.mem_append_left _ himport)
    · exact htype name hname hmem
  · rw [h.values]
    refine (nodup_insert_iff [] _ _ hmarkers).mpr
      ⟨hfree.distinct.filter _, fun name hname (hmem : name ∈ _ ++ [keyList]) => ?_⟩
    have hname := List.mem_of_mem_filter hname
    rcases List.mem_append.mp hmem with hmarker | hkey
    · exact htype name hname ((map_marker_sublist_typeNames own).subset hmarker)
    · exact (hfree.taken name hname).1 (by simp [List.mem_singleton.mp hkey])
  · rw [h.types, List.mem_append, List.mem_append] at hmem
    rcases hmem with (himport | hname) | hmem
    · have happart : ∀ n ∈ foreignNames,
          n ∉ supportTypes := by decide
      exact happart name (hforeign name hout) (himports.subset himport)
    · rcases (h.outside name).mp hout with rfl | ⟨e, he, hout⟩
      · exact (hfree.taken _ hname).1 (by simp)
      · exact (hfree.taken name hname).2 e he (List.mem_append_right _ hout)
    · obtain ⟨e, he, hmem⟩ := List.mem_flatMap.mp hmem
      obtain rfl := eq_marker_of_mem_outside hmem (hforeign name hout)
      have hfixed := marker_not_mem_always hes (hown.subset he)
      rcases (h.outside _).mp hout with hstr | ⟨e', he', hout⟩
      · exact hfixed (by simp [hstr])
      · rcases List.mem_append.mp hout with hmember | hanswer
        · exact hfixed (halways _ hmember)
        · exact hfree.markers e he e' he' hanswer

end Scope

/-! ### The registry of endpoints that answer once -/

/-- The types of the runtime that the registry imports. -/
def registryTypes (es : List Endpoint) : List String :=
  if (Endpoint.standard es).isEmpty then [] else ["Endpoint", "ParseFailure"]

/-- Without an endpoint that answers once there are no errors. -/
lemma errors_eq_nil {errors : List Identifier} (hempty : (Endpoint.standard es).isEmpty = true)
    (hread : (Endpoint.referencedErrors es).mapM Identifier.parse = .ok errors) : errors = [] := by
  rw [Endpoint.referencedErrors, List.isEmpty_iff.mp hempty] at hread
  cases hread
  rfl

lemma typeScope_registry (hc : IsGenerated groups o es c) {errors : List Identifier}
    (hread : (Endpoint.referencedErrors es).mapM Identifier.parse = .ok errors) :
    c.registry.typeScope = registryTypes es ++ errors.map Identifier.name ++
      (Endpoint.standard es).flatMap Endpoint.typeNames := by
  obtain ⟨path, errors', parts, hread', hparts, hitems⟩ := items_of_ofEndpoints hc.registry
  obtain rfl : errors = errors' := Except.ok.inj (hread.symm.trans hread')
  rw [Module.typeScope, flatMap_items Item.typeScope Endpoint.typeNames hparts hitems,
    registryTypes]
  · split
    · rename_i hempty
      simp [errors_eq_nil hempty hread, Item.typeScope]
    · simp [registryImports, Item.typeScope, Identifier.plain]
  · intro e he part hpart
    obtain ⟨_, _, _, _, _, rfl⟩ := standardItems_spec hc.endpoints he hpart
    rw [Endpoint.typeNames_of_mem_standard he]
    rfl

lemma valueScope_registry (hc : IsGenerated groups o es c) {errors : List Identifier}
    (hread : (Endpoint.referencedErrors es).mapM Identifier.parse = .ok errors) :
    c.registry.valueScope =
      ((errors.map Identifier.name).filter fun name => !supportTypes.contains name) ++
        ((Endpoint.standard es).map Endpoint.marker ++ ["ENDPOINT_KEYS"]) := by
  obtain ⟨path, errors', parts, hread', hparts, hitems⟩ := items_of_ofEndpoints hc.registry
  obtain rfl : errors = errors' := Except.ok.inj (hread.symm.trans hread')
  rw [Module.valueScope, flatMap_items Item.valueScope (fun e => [e.marker]) hparts hitems,
    ← List.map_eq_flatMap]
  · split
    · rename_i hempty
      simp [errors_eq_nil hempty hread, Item.valueScope, Identifier.plain]
    · have hsupport : "Endpoint" ∈ supportTypes ∧ "ParseFailure" ∈ supportTypes := by decide
      simp [registryImports, Item.valueScope, Identifier.plain, hsupport]
  · intro e he part hpart
    obtain ⟨_, _, _, _, _, rfl⟩ := standardItems_spec hc.endpoints he hpart
    rfl

/-- What the registry uses for something in its scope is there: the types of the runtime are
imported when there is an endpoint, and so are the errors of each endpoint. -/
lemma inside_registry (hc : IsGenerated groups o es c) :
    ∀ name ∈ c.registry.insideNames, name ∈ c.registry.typeScope := by
  obtain ⟨path, errors, parts, hread, hparts, hitems⟩ := items_of_ofEndpoints hc.registry
  intro name hname
  have hnothing : (if (Endpoint.standard es).isEmpty then [] else
      registryImports path errors).flatMap Item.insideNames = [] := by
    split <;> rfl
  obtain ⟨e, he, part, hpart, hname⟩ := exists_of_mem_items hparts hitems hnothing rfl hname
  obtain ⟨_, _, _, own, hown, rfl⟩ := standardItems_spec hc.endpoints he hpart
  have hnonempty : (Endpoint.standard es).isEmpty = false :=
    List.isEmpty_eq_false_iff_exists_mem.mpr ⟨e, he⟩
  have hkinds : name ∈ registryTypes es ∨ name ∈ own.map Identifier.name ∨ name ∈ e.typeNames := by
    rw [registryTypes, hnonempty, Endpoint.typeNames_of_mem_standard he]
    simp only [Item.insideNames, Identifier.plain, List.flatMap_cons, List.flatMap_nil,
      List.mem_append, List.mem_cons, List.not_mem_nil, or_false, false_or] at hname ⊢
    grind
  rw [typeScope_registry hc hread, List.mem_append, List.mem_append]
  rcases hkinds with hruntime | herror | htype
  · exact .inl (.inl hruntime)
  · obtain ⟨i, hi, rfl⟩ := List.mem_map.mp herror
    obtain ⟨s, hs, hsi⟩ := exists_of_mem_mapM hown hi
    obtain ⟨j, hj, hsj⟩ := exists_of_mapM_of_mem hread
      (Endpoint.mem_referencedErrors_iff.mpr ⟨e, he, hs⟩)
    obtain rfl : i = j := Except.ok.inj (hsi.symm.trans hsj)
    exact .inl (.inr (List.mem_map_of_mem hj))
  · exact .inr (List.mem_flatMap.mpr ⟨e, he, htype⟩)

lemma hasScope_registry (hc : IsGenerated groups o es c) {errors : List Identifier}
    (hread : (Endpoint.referencedErrors es).mapM Identifier.parse = .ok errors) :
    HasScope (Endpoint.standard es) (registryTypes es) (errors.map Identifier.name) "ENDPOINT_KEYS"
      ["str", "serde_json", "thiserror"] c.registry := by
  refine ⟨typeScope_registry hc hread, valueScope_registry hc hread, inside_registry hc,
    fun name => ?_⟩
  obtain ⟨path, errors', parts, _, hparts, hitems⟩ := items_of_ofEndpoints hc.registry
  have hnothing : (if (Endpoint.standard es).isEmpty then [] else
      registryImports path errors').flatMap Item.outsideNames = [] := by
    split <;> rfl
  rw [Module.outsideNames, flatMap_items Item.outsideNames
    (fun e => ["str", "serde_json"] ++ outputNames e.operation.outputFormat ++ ["thiserror"])
    hparts hitems, hnothing]
  · simp [Item.outsideNames, or_comm, or_left_comm]
  · intro e he part hpart
    obtain ⟨_, _, _, _, _, rfl⟩ := standardItems_spec hc.endpoints he hpart
    simp [Item.outsideNames]

/-! ### The registry of streams -/

/-- The type of the runtime that the registry imports. -/
def streamTypes (es : List Endpoint) : List String :=
  if (Endpoint.streams es).isEmpty then [] else ["StreamEndpoint"]

lemma typeScope_streams (hc : IsGenerated groups o es c) :
    c.streams.typeScope = streamTypes es ++ (Endpoint.streams es).flatMap Endpoint.typeNames := by
  obtain ⟨parts, hparts, hitems⟩ := items_of_ofStreams hc.streams
  rw [Module.typeScope, flatMap_items Item.typeScope Endpoint.typeNames hparts hitems, streamTypes]
  · split <;> simp [Item.typeScope, Identifier.plain]
  · intro e he part hpart
    obtain ⟨_, _, rfl⟩ := streamItems_spec hc.endpoints he hpart
    rw [Endpoint.typeNames_of_mem_streams he]
    rfl

lemma valueScope_streams (hc : IsGenerated groups o es c) :
    c.streams.valueScope =
      (Endpoint.streams es).map Endpoint.marker ++ ["STREAM_ENDPOINT_KEYS"] := by
  obtain ⟨parts, hparts, hitems⟩ := items_of_ofStreams hc.streams
  rw [Module.valueScope, flatMap_items Item.valueScope (fun e => [e.marker]) hparts hitems,
    ← List.map_eq_flatMap]
  · have hsupport : "StreamEndpoint" ∈ supportTypes := by decide
    split <;> simp [Item.valueScope, Identifier.plain, hsupport]
  · intro e he part hpart
    obtain ⟨_, _, rfl⟩ := streamItems_spec hc.endpoints he hpart
    rfl

lemma inside_streams (hc : IsGenerated groups o es c) :
    ∀ name ∈ c.streams.insideNames, name ∈ c.streams.typeScope := by
  obtain ⟨parts, hparts, hitems⟩ := items_of_ofStreams hc.streams
  intro name hname
  have hnothing : (if (Endpoint.streams es).isEmpty then [] else
      [Item.imports "crate::runtime" [.plain "StreamEndpoint"]]).flatMap Item.insideNames = [] := by
    split <;> rfl
  obtain ⟨e, he, part, hpart, hname⟩ := exists_of_mem_items hparts hitems hnothing rfl hname
  obtain ⟨_, _, rfl⟩ := streamItems_spec hc.endpoints he hpart
  have hnonempty : (Endpoint.streams es).isEmpty = false :=
    List.isEmpty_eq_false_iff_exists_mem.mpr ⟨e, he⟩
  have hkinds : name = "StreamEndpoint" ∨ name = e.marker := by
    simpa [Item.insideNames, Identifier.plain] using hname
  rw [typeScope_streams hc, streamTypes, hnonempty]
  rcases hkinds with rfl | rfl
  · simp
  · exact List.mem_append_right _
      (List.mem_flatMap.mpr ⟨e, he, Endpoint.marker_mem_typeNames e⟩)

lemma hasScope_streams (hc : IsGenerated groups o es c) :
    HasScope (Endpoint.streams es) (streamTypes es) [] "STREAM_ENDPOINT_KEYS"
      ["str", "serde_json"] c.streams := by
  obtain ⟨parts, hparts, hitems⟩ := items_of_ofStreams hc.streams
  refine ⟨?_, valueScope_streams hc, inside_streams hc, fun name => ?_⟩
  · rw [List.append_nil]
    exact typeScope_streams hc
  · have hnothing : (if (Endpoint.streams es).isEmpty then [] else
        [Item.imports "crate::runtime" [.plain "StreamEndpoint"]]).flatMap Item.outsideNames =
          [] := by
      split <;> rfl
    rw [Module.outsideNames, flatMap_items Item.outsideNames
      (fun e => ["str", "serde_json"] ++ outputNames e.operation.outputFormat) hparts hitems,
      hnothing]
    · simp [Item.outsideNames, or_comm]
    · intro e he part hpart
      obtain ⟨_, _, rfl⟩ := streamItems_spec hc.endpoints he hpart
      simp [Item.outsideNames]

/-! ### Compiled registries -/

/-- Without endpoints that answer once, nothing is imported and there is no error to meet it. -/
lemma isFreeScope_registryTypes_iff {errors : List Identifier} {keyList : String}
    {always : List String}
    (hread : (Endpoint.referencedErrors es).mapM Identifier.parse = .ok errors) :
    IsFreeScope (Endpoint.standard es) (registryTypes es) (errors.map Identifier.name) keyList
        always ↔
      IsFreeScope (Endpoint.standard es) ["Endpoint", "ParseFailure"] (errors.map Identifier.name)
        keyList always := by
  unfold registryTypes
  split
  · rename_i hempty
    rw [errors_eq_nil hempty hread]
    exact ⟨fun h => ⟨h.distinct, nofun, h.markers⟩, fun h => ⟨h.distinct, nofun, h.markers⟩⟩
  · exact Iff.rfl

/-- The names of both registries of a compiled client mean what they should exactly when the errors,
as they are read, are distinct and none of them is a trait, the failure type, the list of keys, a
marker, a union or a name that is used from outside; and no marker is the name of the type that an
endpoint of the same registry answers with. -/
theorem keepsMeaning_of_compile {η : Type} {files : Artifacts}
    (h : (compile groups o : Traced η Artifacts).result = .ok files) :
    ∃ es c errors, IsGenerated groups o es c ∧
      files.find? "endpoints.rs" = some c.registry.text ∧
      files.find? "stream_endpoints.rs" = some c.streams.text ∧
      (Endpoint.referencedErrors es).mapM Identifier.parse = .ok errors ∧
      (c.registry.KeepsMeaning ↔
        IsFreeScope (Endpoint.standard es) ["Endpoint", "ParseFailure"]
          (errors.map Identifier.name) "ENDPOINT_KEYS" ["str", "serde_json", "thiserror"]) ∧
      (c.streams.KeepsMeaning ↔ ∀ e ∈ Endpoint.streams es, ∀ e' ∈ Endpoint.streams es,
        e.marker ∉ outputNames e'.operation.outputFormat) := by
  obtain ⟨es, c, hc, hregistry, hstreams, _⟩ := exists_registries_of_compile h
  obtain ⟨_, errors, _, hread, _⟩ := items_of_ofEndpoints hc.registry
  have hdistinct : DistinctNames groups es := ((checkNames_eq_ok_iff groups es).mp hc.checked).1
  have hscope := hasScope_registry hc hread
  have hstreamScope := hasScope_streams hc
  refine ⟨es, c, errors, hc, hregistry, hstreams, hread, ?_, ?_⟩
  · rw [← isFreeScope_registryTypes_iff hread]
    refine ⟨hscope.isFreeScope (by decide),
      hscope.keepsMeaning hc.endpoints hdistinct List.filter_sublist ?_ (by decide) (by decide)⟩
    unfold registryTypes
    split <;> decide
  · constructor
    · intro hm
      exact (hstreamScope.isFreeScope (by decide) hm).markers
    · intro hmarkers
      refine hstreamScope.keepsMeaning hc.endpoints hdistinct List.filter_sublist ?_ (by decide)
        (by decide) ⟨List.nodup_nil, nofun, hmarkers⟩
      unfold streamTypes
      split <;> decide

/-- Endpoints with all types of answers, one of them with the marker `Vec`, which no answer of its
registry is. -/
def answeringGroups : Groups :=
  [("files", [
    { Operation.new "readFile" .get "/files" with outputFormat := .text, errors := ["NotFound"] },
    { Operation.new "vec" .get "/vec" with errors := ["NotFound", "Busy"] },
    { Operation.new "deleteFile" .delete "/files" with outputFormat := .empty },
    { Operation.new "watchFile" .get "/files" with kind := .stream, outputFormat := .binary }])]

theorem keepsMeaning_answeringGroups : ∃ files es c,
    (compile answeringGroups .standard : Traced Unit Artifacts).result = .ok files ∧
    IsGenerated answeringGroups .standard es c ∧
    files.find? "endpoints.rs" = some c.registry.text ∧ c.registry.KeepsMeaning ∧
    c.streams.KeepsMeaning := by
  obtain ⟨files, hfiles⟩ :
      ∃ files, (compile answeringGroups .standard : Traced Unit Artifacts).result = .ok files :=
    exists_eq_ok (by decide +kernel)
  obtain ⟨es, c, errors, hc, hregistry, _, hread, hmeaning, hstreams⟩ :=
    keepsMeaning_of_compile hfiles
  have hes := hc.endpoints
  have hfree : IsFreeScope (Endpoint.standard es) ["Endpoint", "ParseFailure"]
      (errors.map Identifier.name) "ENDPOINT_KEYS" ["str", "serde_json", "thiserror"] := by
    cases hes
    cases hread
    exact ⟨by decide +kernel, by decide +kernel, by decide +kernel⟩
  have hfreeStreams : ∀ e ∈ Endpoint.streams es, ∀ e' ∈ Endpoint.streams es,
      e.marker ∉ outputNames e'.operation.outputFormat := by
    cases hes
    decide +kernel
  exact ⟨files, es, c, hfiles, hc, hregistry, hmeaning.mpr hfree, hstreams.mpr hfreeStreams⟩

/-- Endpoints with the markers `String` and `Vec` that answer with just these types, and an error
with the name of the list of keys. -/
def shadowedGroups : Groups :=
  [("files", [
    { Operation.new "string" .get "/text" with
      outputFormat := .text, errors := ["ENDPOINT_KEYS"] },
    { Operation.new "vec" .get "/bytes" with kind := .stream, outputFormat := .binary }])]

/-- The groups compile; in both registries a marker stands where a type from outside is meant, and
the list of keys is a value twice. -/
theorem shadowedGroups_accepted : ∃ files es c,
    (compile shadowedGroups .standard : Traced Unit Artifacts).result = .ok files ∧
    IsGenerated shadowedGroups .standard es c ∧
    files.find? "endpoints.rs" = some c.registry.text ∧
    files.find? "stream_endpoints.rs" = some c.streams.text ∧
    ("String" ∈ c.registry.outsideNames ∧ "String" ∈ c.registry.typeScope) ∧
    c.registry.valueScope.count "ENDPOINT_KEYS" = 2 ∧
    ("Vec" ∈ c.streams.outsideNames ∧ "Vec" ∈ c.streams.typeScope) ∧
    ¬ c.registry.KeepsMeaning ∧ ¬ c.streams.KeepsMeaning := by
  obtain ⟨files, hfiles⟩ :
      ∃ files, (compile shadowedGroups .standard : Traced Unit Artifacts).result = .ok files :=
    exists_eq_ok (by decide +kernel)
  obtain ⟨es, c, hc, hregistry, hstreams, _⟩ := exists_registries_of_compile hfiles
  have hes := hc.endpoints
  have hm := hc.registry
  have hs := hc.streams
  have hstring : ("String" ∈ c.registry.outsideNames ∧ "String" ∈ c.registry.typeScope) ∧
      c.registry.valueScope.count "ENDPOINT_KEYS" = 2 := by
    generalize c.registry = m at hm ⊢
    cases hes
    cases hm
    decide +kernel
  have hvec : "Vec" ∈ c.streams.outsideNames ∧ "Vec" ∈ c.streams.typeScope := by
    generalize c.streams = m at hs ⊢
    cases hes
    cases hs
    decide +kernel
  exact ⟨files, es, c, hfiles, hc, hregistry, hstreams, hstring.1, hstring.2, hvec,
    fun h => h.outside _ hstring.1.1 hstring.1.2, fun h => h.outside _ hvec.1 hvec.2⟩

end ApiContract.Client
