import ApiContract.Client.Artifacts
import ApiContract.Proofs.Client.FirstCollision

/-!
# Files of a compiled client

When groups compile, the files are the generated modules in a fixed order, followed by the supplied
files (`exists_generated_of_compile`). Files are added by writing into a table, which would replace
what is there; that it never does follows from the paths, which are all different
(`nodup_generatedPaths`): the groups have different modules, none of them is named `mod`, since
`mod` is reserved, and a supplied file never takes a path that is taken.

For the schemas this gives `schemas_of_compile`.
-/

namespace ApiContract.Client

open Code

/-! ### Names of files -/

lemma groupFile_inj {g g' : String} (h : groupFile g = groupFile g') :
    moduleName g = moduleName g' := by
  have hlist := congrArg String.toList h
  rw [groupFile, groupFile, String.toList_append, String.toList_append, String.toList_append,
    String.toList_append] at hlist
  exact String.toList_inj.mp (List.append_cancel_left (List.append_cancel_right hlist))

/-- The file of a group is not at the top. -/
lemma slash_mem_groupFile (g : String) : '/' ∈ (groupFile g).toList := by
  rw [groupFile, String.toList_append, String.toList_append]
  exact List.mem_append_left _ (List.mem_append_left _ (by decide))

/-- The file of a group is not the list of groups, since `mod` is reserved. -/
lemma groupFile_ne_mod {g : String} {i : Identifier}
    (h : Identifier.parse (moduleName g) = .ok i) : groupFile g ≠ "schemas/mod.rs" := by
  intro hfile
  have hmod : moduleName g = "mod" := by
    have hlist := congrArg String.toList hfile
    rw [groupFile, String.toList_append, String.toList_append,
      show "schemas/mod.rs".toList = "schemas/".toList ++ "mod".toList ++ ".rs".toList by decide]
      at hlist
    exact String.toList_inj.mp (List.append_cancel_left (List.append_cancel_right hlist))
  rw [hmod] at h
  cases h

/-- The modules of the groups that are listed have identifiers. -/
lemma exists_parse_of_ofSchemas {names : List String} {schemas : Module}
    (h : Module.ofSchemas names = .ok schemas) {g : String} (hg : g ∈ names) :
    ∃ i, Identifier.parse (moduleName g) = .ok i := by
  unfold Module.ofSchemas at h
  obtain ⟨is, his, _⟩ := bind_eq_ok_iff.mp h
  obtain ⟨i, _, hi⟩ := exists_of_mapM_of_mem his hg
  exact ⟨i, hi⟩

/-- The paths of the generated files before those of the groups. -/
def pathsBeforeGroups (o : Options) : List String :=
  ["lib.rs", "runtime.rs"] ++ (if o.generatesErrors then [errorsFile] else []) ++ ["schemas/mod.rs"]

/-- The paths of the generated files behind those of the groups. -/
def pathsAfterGroups : List String := ["endpoints.rs", "stream_endpoints.rs", "dispatch.rs"]

/-- The paths of all generated files in order. -/
def generatedPaths (groups : Groups) (o : Options) : List String :=
  pathsBeforeGroups o ++ groups.keys.map groupFile ++ pathsAfterGroups

/-- The files that are no files of groups have different paths, and only the list of groups is below
a directory. -/
lemma pathsBeforeGroups_append_spec (o : Options) :
    (pathsBeforeGroups o ++ pathsAfterGroups).Nodup ∧
      ∀ path ∈ pathsBeforeGroups o ++ pathsAfterGroups, '/' ∈ path.toList →
        path = "schemas/mod.rs" := by
  unfold pathsBeforeGroups
  cases o.generatesErrors <;> decide

/-- No two generated files have one path. -/
lemma nodup_generatedPaths {groups : Groups} (o : Options)
    (hmodules : (groups.keys.map moduleName).Nodup)
    (hmod : ∀ g ∈ groups.keys, groupFile g ≠ "schemas/mod.rs") :
    (generatedPaths groups o).Nodup := by
  obtain ⟨hothers, hslash⟩ := pathsBeforeGroups_append_spec o
  have hgroups : (groups.keys.map groupFile).Nodup := by
    rw [List.Nodup, List.pairwise_map] at hmodules ⊢
    exact hmodules.imp fun hne hfile => hne (groupFile_inj hfile)
  have hperm : (generatedPaths groups o).Perm
      (groups.keys.map groupFile ++ (pathsBeforeGroups o ++ pathsAfterGroups)) := by
    rw [generatedPaths, ← List.append_assoc]
    exact List.perm_append_comm.append_right _
  rw [hperm.nodup_iff, List.nodup_append]
  refine ⟨hgroups, hothers, ?_⟩
  rintro _ hfile path hpath rfl
  obtain ⟨g, hg, rfl⟩ := List.mem_map.mp hfile
  exact hmod g hg (hslash _ hpath (slash_mem_groupFile g))

/-! ### Generated modules -/

/-- The generated modules of a client, and the names of modules that its root lists. -/
structure Generated where
  names : List String
  root : Module
  errors : Option Module
  schemas : Module
  groups : List (String × Module)
  registry : Module
  streams : Module
  dispatch : Module

namespace Generated

/-- The files before those of the groups. -/
def filesBeforeGroups (c : Generated) : Artifacts :=
  [("lib.rs", c.root.text), ("runtime.rs", Support.text)] ++
    (c.errors.toList.map fun m => (errorsFile, m.text)) ++ [("schemas/mod.rs", c.schemas.text)]

/-- The files of the groups. -/
def groupFiles (c : Generated) : Artifacts := c.groups.map fun g => (groupFile g.1, g.2.text)

/-- The files behind those of the groups. -/
def filesAfterGroups (c : Generated) : Artifacts :=
  [("endpoints.rs", c.registry.text), ("stream_endpoints.rs", c.streams.text),
    ("dispatch.rs", c.dispatch.text)]

/-- All generated files in order. -/
def files (c : Generated) : Artifacts :=
  c.filesBeforeGroups ++ c.groupFiles ++ c.filesAfterGroups

lemma root_mem_files (c : Generated) : ("lib.rs", c.root.text) ∈ c.files := by
  simp [files, filesBeforeGroups]

lemma schemas_mem_files (c : Generated) : ("schemas/mod.rs", c.schemas.text) ∈ c.files := by
  simp [files, filesBeforeGroups]

end Generated

/-- The modules are those generated for the endpoints of groups. -/
structure IsGenerated (groups : Groups) (o : Options) (es : List Endpoint) (c : Generated) :
    Prop where
  endpoints : Endpoint.ofGroups groups = .ok es
  checked : checkNames groups es = .ok ()
  names : modules o = .ok c.names
  root : Module.ofModules c.names = .ok c.root
  isSome_errors : c.errors.isSome = o.generatesErrors
  errors : ∀ m ∈ c.errors, Module.ofErrors (Endpoint.referencedErrors es) = .ok m
  schemas : Module.ofSchemas groups.keys = .ok c.schemas
  groups : List.Forall₂ (fun g m => m.1 = g.1 ∧ Module.ofGroup g.1 g.2 = .ok m.2) groups c.groups
  registry : Module.ofEndpoints o.errorsModule es = .ok c.registry
  streams : Module.ofStreams es = .ok c.streams
  dispatch : Module.ofDispatch es = .ok c.dispatch

namespace IsGenerated

variable {groups : Groups} {o : Options} {es : List Endpoint} {c : Generated}

lemma keys_filesBeforeGroups (h : c.errors.isSome = o.generatesErrors) :
    c.filesBeforeGroups.keys = pathsBeforeGroups o := by
  rw [pathsBeforeGroups, ← h]
  cases herrors : c.errors <;> simp [Generated.filesBeforeGroups, Table.keys, herrors]

/-- The paths of the generated files depend on the groups and the options alone. -/
lemma keys_files (h : IsGenerated groups o es c) : c.files.keys = generatedPaths groups o := by
  have hgroups : c.groups.map Prod.fst = groups.keys :=
    map_eq_map_of_forall₂ h.groups fun _ _ _ hm => hm.1
  have hfiles : c.groupFiles.keys = groups.keys.map groupFile := by
    rw [← hgroups, Generated.groupFiles, Table.keys, List.map_map, List.map_map]
    rfl
  rw [generatedPaths, ← keys_filesBeforeGroups h.isSome_errors, ← hfiles]
  simp only [Generated.files, Table.keys, List.map_append]
  rfl

end IsGenerated

/-! ### Files that are added -/

/-- Supplied files are put behind the others, which needs their paths to be free. -/
lemma foldlM_addSupplied_eq_ok_iff {files : Artifacts} (hfiles : files.keys.Nodup)
    (supplied all : Artifacts) :
    supplied.foldlM addSupplied files = .ok all ↔
      (files ++ supplied).keys.Nodup ∧ all = files ++ supplied := by
  induction supplied generalizing files with
  | nil =>
    rw [List.append_nil, List.foldlM_nil]
    simp [pure, Except.pure, hfiles, eq_comm]
  | cons file rest ih =>
    have hsplit : files ++ file :: rest = (files ++ [file]) ++ rest := by simp
    have hfree : files.has file.1 = false ↔ file.1 ∉ files.keys := by
      rw [← Table.find?_eq_none_iff, Table.has, Option.isSome_eq_false_iff,
        Option.isNone_iff_eq_none]
    have hnext : (files ++ [file]).keys.Nodup ↔ file.1 ∉ files.keys := by
      rw [Table.keys, List.map_append, List.map_singleton, ← List.concat_eq_append,
        List.nodup_concat]
      exact and_iff_left hfiles
    rw [List.foldlM_cons, addSupplied, hsplit]
    split
    · rename_i hhas
      have htaken : ¬ file.1 ∉ files.keys := fun hnew => by
        rw [hfree.mpr hnew] at hhas
        cases hhas
      rw [error_bind]
      constructor
      · intro h
        cases h
      · rintro ⟨hnodup, _⟩
        rw [Table.keys, List.map_append] at hnodup
        exact absurd (hnext.mp hnodup.of_append_left) htaken
    · rename_i hhas
      have hnew : file.1 ∉ files.keys := hfree.mp (by simpa using hhas)
      rw [ok_bind, Table.insert_of_not_mem hnew]
      exact ih (hnext.mpr hnew)

lemma textOf_eq_ok_iff {η : Type} {m : Except Error Module} {text : String} :
    (textOf m : Traced η String).result = .ok text ↔ ∃ module, m = .ok module ∧
      text = module.text := by
  rw [textOf, Traced.result_lift, map_eq_ok_iff]
  simp only [eq_comm]

/-- The files of the groups are put behind the others when all paths are different. -/
lemma addGroups_eq_append {η : Type} {groups : Groups} {files all : Artifacts}
    (h : (addGroups groups files : Traced η Artifacts).result = .ok all)
    (hpaths : (files.keys ++ groups.keys.map groupFile).Nodup) :
    ∃ ms : List (String × Module),
      List.Forall₂ (fun g m => m.1 = g.1 ∧ Module.ofGroup g.1 g.2 = .ok m.2) groups ms ∧
      all = files ++ ms.map fun m => (groupFile m.1, m.2.text) := by
  induction groups generalizing files with
  | nil =>
    cases h
    exact ⟨[], .nil, (List.append_nil _).symm⟩
  | cons group rest ih =>
    obtain ⟨name, ops⟩ := group
    rw [addGroups, Traced.result_bind] at h
    obtain ⟨text, htext, h⟩ := bind_eq_ok_iff.mp h
    obtain ⟨m, hm, rfl⟩ := textOf_eq_ok_iff.mp htext
    rw [Traced.result_bind, Traced.result_log, ok_bind] at h
    have hsplit : files.keys ++ (Table.keys ((name, ops) :: rest)).map groupFile =
        (files ++ [(groupFile name, m.text)]).keys ++ (Table.keys rest).map groupFile := by
      simp [Table.keys]
    rw [hsplit] at hpaths
    have hnew : groupFile name ∉ files.keys := by
      have hnodup := hpaths.of_append_left
      rw [Table.keys, List.map_append, List.map_singleton, ← List.concat_eq_append,
        List.nodup_concat] at hnodup
      exact hnodup.1
    rw [Table.insert_of_not_mem hnew] at h
    obtain ⟨ms, hms, rfl⟩ := ih h hpaths
    exact ⟨(name, m) :: ms, .cons ⟨rfl, hm⟩ hms, by simp⟩

/-! ### Compiled groups -/

/-- The files of groups that compile are the generated ones followed by the supplied ones, and no
path is there twice. -/
theorem exists_generated_of_compile {η : Type} {groups : Groups} {o : Options} {files : Artifacts}
    (h : (compile groups o : Traced η Artifacts).result = .ok files) :
    ∃ es c, IsGenerated groups o es c ∧ files = c.files ++ o.supplied ∧ files.keys.Nodup := by
  unfold compile at h
  rw [Traced.result_bind, Traced.result_lift] at h
  obtain ⟨es, hes, h⟩ := bind_eq_ok_iff.mp h
  rw [Traced.result_bind] at h
  obtain ⟨_, hvalid, h⟩ := bind_eq_ok_iff.mp h
  have hdistinct := distinct_of_validate hvalid
  rw [Traced.result_bind, Traced.result_lift] at h
  obtain ⟨names, hnames, h⟩ := bind_eq_ok_iff.mp h
  rw [Traced.result_bind] at h
  obtain ⟨_, htext, h⟩ := bind_eq_ok_iff.mp h
  obtain ⟨root, hroot, rfl⟩ := textOf_eq_ok_iff.mp htext
  -- The error module is written or not, and what follows is the same.
  extract_lets first afterErrors at h
  obtain ⟨errors, hisSome, herrors, h⟩ : ∃ errors : Option Module,
      errors.isSome = o.generatesErrors ∧
      (∀ m ∈ errors, Module.ofErrors (Endpoint.referencedErrors es) = .ok m) ∧
      (afterErrors (first ++ errors.toList.map fun m => (errorsFile, m.text))).result =
        .ok files := by
    split at h
    · rename_i hgenerates
      rw [Traced.result_bind] at h
      obtain ⟨_, htext, h⟩ := bind_eq_ok_iff.mp h
      obtain ⟨m, hm, rfl⟩ := textOf_eq_ok_iff.mp htext
      have hfree : errorsFile ∉ first.keys := by
        change errorsFile ∉ ["lib.rs", "runtime.rs"]
        decide
      rw [Table.insert_of_not_mem hfree] at h
      exact ⟨some m, hgenerates.symm, by simpa using hm, h⟩
    · rename_i hgenerates
      exact ⟨none, by simpa using hgenerates, nofun, h⟩
  simp only [afterErrors] at h
  rw [Traced.result_bind] at h
  obtain ⟨_, htext, h⟩ := bind_eq_ok_iff.mp h
  obtain ⟨schemas, hschemas, rfl⟩ := textOf_eq_ok_iff.mp htext
  have hmod : ∀ g ∈ groups.keys, groupFile g ≠ "schemas/mod.rs" := by
    intro g hg
    obtain ⟨i, hi⟩ := exists_parse_of_ofSchemas hschemas hg
    exact groupFile_ne_mod hi
  have hpaths := nodup_generatedPaths o hdistinct.modules hmod
  rw [Traced.result_bind] at h
  obtain ⟨grouped, hgrouped, h⟩ := bind_eq_ok_iff.mp h
  simp only [Traced.result_bind, Traced.result_logAll, Traced.result_lift, ok_bind] at h
  obtain ⟨_, htext, h⟩ := bind_eq_ok_iff.mp h
  obtain ⟨registry, hregistry, rfl⟩ := textOf_eq_ok_iff.mp htext
  obtain ⟨_, htext, h⟩ := bind_eq_ok_iff.mp h
  obtain ⟨streams, hstreams, rfl⟩ := textOf_eq_ok_iff.mp htext
  obtain ⟨_, htext, h⟩ := bind_eq_ok_iff.mp h
  obtain ⟨dispatch, hdispatch, rfl⟩ := textOf_eq_ok_iff.mp htext
  -- All files have different paths, so each writing puts its file behind the others.
  let others : Generated := ⟨names, root, errors, schemas, [], registry, streams, dispatch⟩
  have hbefore : others.filesBeforeGroups.keys = pathsBeforeGroups o :=
    IsGenerated.keys_filesBeforeGroups hisSome
  have hnew : "schemas/mod.rs" ∉ Table.keys (first ++ errors.toList.map fun m =>
      (errorsFile, m.text)) := by
    have hnodup := hpaths.of_append_left.of_append_left
    rw [← hbefore, Generated.filesBeforeGroups, Table.keys, List.map_append, List.map_singleton,
      ← List.concat_eq_append, List.nodup_concat] at hnodup
    exact hnodup.1
  rw [Table.insert_of_not_mem hnew] at hgrouped
  obtain ⟨ms, hms, rfl⟩ := addGroups_eq_append hgrouped (hbefore ▸ hpaths.of_append_left)
  let c : Generated := { others with groups := ms }
  have hc : IsGenerated groups o es c :=
    ⟨hes, checkNames_of_validate hvalid, hnames, hroot, hisSome, herrors, hschemas, hms, hregistry,
      hstreams, hdispatch⟩
  have hkeys : c.files.keys.Nodup := hc.keys_files ▸ hpaths
  change o.supplied.foldlM addSupplied
    (Table.insertAll c.filesAfterGroups (c.filesBeforeGroups ++ c.groupFiles)) = .ok files at h
  rw [Table.insertAll_of_nodup hkeys] at h
  obtain ⟨hnodup, rfl⟩ := (foldlM_addSupplied_eq_ok_iff hkeys _ _).mp h
  exact ⟨es, c, hc, rfl, hnodup⟩

/-- Among files with different paths each generated one is found. -/
lemma Generated.find?_files {c : Generated} {supplied : Artifacts}
    (hnodup : (c.files ++ supplied).keys.Nodup) {path text : String}
    (h : (path, text) ∈ c.files) : Table.find? path (c.files ++ supplied) = some text :=
  Table.find?_of_mem hnodup (List.mem_append_left _ h)

/-- Groups that compile have endpoints without a name twice, a list of groups in one file and the
schemas of each group in another. -/
theorem schemas_of_compile {η : Type} {groups : Groups} {o : Options} {files : Artifacts}
    (h : (compile groups o : Traced η Artifacts).result = .ok files) :
    ∃ es schemas, Endpoint.ofGroups groups = .ok es ∧ DistinctNames groups es ∧
      Module.ofSchemas groups.keys = .ok schemas ∧
      files.find? "schemas/mod.rs" = some schemas.text ∧
      ∀ g ∈ groups, ∃ m, Module.ofGroup g.1 g.2 = .ok m ∧
        files.find? (groupFile g.1) = some m.text := by
  obtain ⟨es, c, hc, rfl, hnodup⟩ := exists_generated_of_compile h
  refine ⟨es, c.schemas, hc.endpoints, ((checkNames_eq_ok_iff groups es).mp hc.checked).1,
    hc.schemas, Generated.find?_files hnodup c.schemas_mem_files, fun g hg => ?_⟩
  obtain ⟨m, hm, hname, hof⟩ := exists_mem_of_forall₂ hc.groups hg
  refine ⟨m.2, hof, Generated.find?_files hnodup ?_⟩
  rw [← hname, Generated.files, Generated.groupFiles]
  exact List.mem_append_left _ (List.mem_append_right _ (List.mem_map_of_mem hm))

end ApiContract.Client
