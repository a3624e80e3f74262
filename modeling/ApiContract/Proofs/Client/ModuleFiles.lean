import ApiContract.Proofs.Client.DeclaredModules
import ApiContract.Proofs.Client.SchemaModules

/-!
# Files of declared modules

A module that is declared has two places for its file: one named after it, and `mod.rs` in a
directory named after it. It has to be found at exactly one of them, and the name that counts is
that of the identifier in the declaration, without the mark of a raw one.

Generated modules stand at one place (`moduleFile_mem_files_iff`, `directoryFile_mem_files_iff`), so
only supplied files can be in the way. Compiling looks for them at one place alone, and under the
names of files where the declarations have what these names are read as. What is missed by that is
said here for all groups and options (`resolvesModules_of_compile`).
-/

namespace ApiContract.Client

open Code

/-! ### The two places of a module -/

/-- The file of a module in a directory of its own. -/
def directoryFile (name : String) : String := name ++ "/mod.rs"

/-- Every module that is declared in a directory is found at exactly one of its places, and none is
declared twice. -/
structure ResolvesModules (paths : List String) (dir : String) (declared : List Identifier) :
    Prop where
  nodup : (declared.map Identifier.name).Nodup
  found : ∀ i ∈ declared,
    Xor (moduleFile (dir ++ i.name) ∈ paths) (directoryFile (dir ++ i.name) ∈ paths)

/-- The same of modules that are declared by their names. -/
lemma resolvesModules_map_plain_iff {paths names : List String} {dir : String} :
    ResolvesModules paths dir (names.map .plain) ↔ names.Nodup ∧ ∀ name ∈ names,
      Xor (moduleFile (dir ++ name) ∈ paths) (directoryFile (dir ++ name) ∈ paths) := by
  have hnames : (names.map Identifier.plain).map Identifier.name = names := by
    rw [List.map_map]
    exact List.map_id names
  constructor
  · rintro ⟨hnodup, hfound⟩
    rw [hnames] at hnodup
    exact ⟨hnodup, List.forall_mem_map.mp hfound⟩
  · rintro ⟨hnodup, hfound⟩
    rw [← hnames] at hnodup
    exact ⟨hnodup, List.forall_mem_map.mpr hfound⟩

lemma toList_directoryFile (name : String) :
    (directoryFile name).toList = name.toList ++ "/mod.rs".toList :=
  String.toList_append

lemma directoryFile_inj {name other : String} :
    directoryFile name = directoryFile other ↔ name = other :=
  String.append_left_inj _

lemma slash_not_mem_moduleName (g : String) : '/' ∉ (moduleName g).toList := by
  intro hslash
  rcases Text.not_isSeparator_of_mem_snake hslash with h | h
  · exact absurd h (by decide)
  · exact absurd (by decide) h

/-- A name that is read from a text has no slash. -/
lemma slash_not_mem_of_parse {s : String} {i : Identifier} (h : Identifier.parse s = .ok i) :
    '/' ∉ i.name.toList := fun hslash =>
  absurd (Identifier.isIdentContinue_of_parse h '/' hslash) (by decide)

/-- The file of a group is no file of a directory, since `mod` is reserved. -/
lemma groupFile_ne_directoryFile {g : String} {i : Identifier}
    (h : Identifier.parse (moduleName g) = .ok i) (name : String) :
    groupFile g ≠ directoryFile name := by
  intro hfile
  have hgroup : (groupFile g).toList =
      "schemas".toList ++ '/' :: ((moduleName g).toList ++ ".rs".toList) := by
    rw [groupFile, String.toList_append, String.toList_append]
    rfl
  have hlast : (moduleName g).toList ++ ".rs".toList = "mod".toList ++ ".rs".toList := by
    have hsame : "schemas".toList ++ '/' :: ((moduleName g).toList ++ ".rs".toList) =
        name.toList ++ '/' :: ("mod".toList ++ ".rs".toList) := by
      rw [← hgroup, hfile, toList_directoryFile]
      rfl
    refine (append_cons_inj_of_not_mem_right ?_ (by decide) hsame).2
    rw [List.mem_append]
    exact not_or.mpr ⟨slash_not_mem_moduleName g, by decide⟩
  have hmod : moduleName g = "mod" := String.toList_inj.mp (List.append_cancel_right hlast)
  refine groupFile_ne_mod h ?_
  rw [groupFile, hmod]
  rfl

/-! ### Files of a compiled client -/

section

variable {groups : Groups} {o : Options} {es : List Endpoint} {c : Generated}

/-- The list of the groups is the only generated module with a directory of its own. -/
lemma directoryFile_mem_generatedPaths_iff (hc : IsGenerated groups o es c) (name : String) :
    directoryFile name ∈ generatedPaths groups o ↔ name = "schemas" := by
  have hgroups : directoryFile name ∉ groups.keys.map groupFile := by
    intro hmem
    obtain ⟨g, hg, hfile⟩ := List.mem_map.mp hmem
    obtain ⟨i, hi⟩ := exists_parse_of_ofSchemas hc.schemas hg
    exact groupFile_ne_directoryFile hi name hfile
  have hothers : directoryFile name ∈ generatedPaths groups o ↔
      directoryFile name ∈ pathsBeforeGroups o ++ pathsAfterGroups := by
    simp only [generatedPaths, List.mem_append, hgroups, or_false]
  rw [hothers]
  constructor
  · intro hmem
    have hslash : '/' ∈ (directoryFile name).toList := by
      rw [toList_directoryFile]
      exact List.mem_append_right _ (by decide)
    exact directoryFile_inj.mp ((pathsBeforeGroups_append_spec o).2 _ hmem hslash)
  · rintro rfl
    refine List.mem_append_left _ (List.mem_append_right _ ?_)
    exact List.mem_singleton.mpr rfl

lemma mem_keys_files_iff (hc : IsGenerated groups o es c) (path : String) :
    path ∈ Table.keys (c.files ++ o.supplied) ↔
      path ∈ generatedPaths groups o ∨ path ∈ o.supplied.keys := by
  rw [← hc.keys_files, Table.keys, List.map_append, List.mem_append]
  rfl

/-- A file in a directory of its own is that of the schemas or supplied. -/
lemma directoryFile_mem_files_iff (hc : IsGenerated groups o es c) (name : String) :
    directoryFile name ∈ Table.keys (c.files ++ o.supplied) ↔
      name = "schemas" ∨ directoryFile name ∈ o.supplied.keys := by
  rw [mem_keys_files_iff hc, directoryFile_mem_generatedPaths_iff hc]

/-- The schemas are no file at the top. -/
lemma moduleFile_schemas_not_mem (hc : IsGenerated groups o es c) :
    moduleFile "schemas" ∉ Table.keys (c.files ++ o.supplied) := by
  obtain ⟨hnodup, _, heq⟩ := names_of_modules hc.names
  rw [mem_keys_files_iff hc, moduleFile_mem_generatedPaths_iff groups o (by decide)]
  rintro (hgenerated | hsupplied)
  · simp at hgenerated
  · -- A supplied file there would be a module of the name of the schemas.
    rw [heq, List.nodup_append] at hnodup
    refine hnodup.2.2 "schemas" ((mem_ownModules_iff _ _).mpr (.inl (by decide))) "schemas" ?_ rfl
    exact (mem_suppliedModules_iff _ _).mpr ⟨hsupplied, by decide, by decide⟩

/-- A file at the top is the root or that of a module which the root lists. -/
lemma moduleFile_mem_files_iff (hc : IsGenerated groups o es c) {name : String}
    (hslash : '/' ∉ name.toList) :
    moduleFile name ∈ Table.keys (c.files ++ o.supplied) ↔
      name ≠ "schemas" ∧ name ∈ "lib" :: c.names := by
  have hnames := mem_names_iff hc.names groups name
  rw [← hc.keys_files] at hnames
  have hkeys : Table.keys (c.files ++ o.supplied) = c.files.keys ++ o.supplied.keys :=
    List.map_append
  rw [← hkeys] at hnames
  by_cases hschemas : name = "schemas"
  · subst hschemas
    exact iff_of_false (moduleFile_schemas_not_mem hc) fun h => h.1 rfl
  by_cases hlib : name = "lib"
  · subst hlib
    refine iff_of_true ?_ ⟨by decide, List.mem_cons_self⟩
    rw [mem_keys_files_iff hc]
    exact .inl ((moduleFile_mem_generatedPaths_iff groups o (by decide)).mpr (.inl (by decide)))
  · rw [List.mem_cons, hnames]
    constructor
    · intro hfile
      exact ⟨hschemas, .inr (.inr ⟨hlib, hslash, hfile⟩)⟩
    · rintro ⟨_, h | h | ⟨_, _, hfile⟩⟩
      · exact absurd h hlib
      · exact absurd h hschemas
      · exact hfile

/-! ### Declarations -/

/-- The root lists the identifiers that the names of the modules are read as. -/
lemma forall₂_submodules_of_ofModules {names : List String} {root : Module}
    (h : Module.ofModules names = .ok root) :
    List.Forall₂ (fun name i => Identifier.parse name = .ok i) names root.submodules := by
  unfold Module.ofModules at h
  obtain ⟨is, his, h⟩ := bind_eq_ok_iff.mp h
  cases h
  rw [submodules_map_submodule]
  exact (mapM_eq_ok_iff _ _ _).mp his

lemma mem_submodules_root (hc : IsGenerated groups o es c) {name : String} {i : Identifier}
    (hread : Identifier.parse? name = some i) (hname : name ∈ c.names) :
    i ∈ c.root.submodules := by
  obtain ⟨j, hj, hparse⟩ := exists_mem_of_forall₂ (forall₂_submodules_of_ofModules hc.root) hname
  rw [Identifier.parse_eq_ok_iff, hread] at hparse
  exact Option.some.inj hparse ▸ hj

/-- The list of groups resolves unless a group is supplied with a directory of its own. -/
lemma resolvesModules_schemas_iff (hc : IsGenerated groups o es c) :
    ResolvesModules (Table.keys (c.files ++ o.supplied)) "schemas/" c.schemas.submodules ↔
      ∀ g ∈ groups.keys, directoryFile ("schemas/" ++ moduleName g) ∉ o.supplied.keys := by
  have hmodules := ((checkNames_eq_ok_iff groups es).mp hc.checked).1.modules
  have hfound : ∀ g ∈ groups.keys,
      (Xor (moduleFile ("schemas/" ++ moduleName g) ∈ Table.keys (c.files ++ o.supplied))
        (directoryFile ("schemas/" ++ moduleName g) ∈ Table.keys (c.files ++ o.supplied)) ↔
      directoryFile ("schemas/" ++ moduleName g) ∉ o.supplied.keys) := by
    intro g hg
    have hfile : moduleFile ("schemas/" ++ moduleName g) ∈ Table.keys (c.files ++ o.supplied) := by
      refine (mem_keys_files_iff hc _).mpr (.inl ?_)
      exact List.mem_append_left _ (List.mem_append_right _ (List.mem_map_of_mem hg))
    have hname : "schemas/" ++ moduleName g ≠ "schemas" := by
      intro hsame
      have hslash : '/' ∉ ("schemas/" ++ moduleName g).toList := by
        rw [hsame]
        decide
      rw [String.toList_append] at hslash
      exact hslash (List.mem_append_left _ (by decide))
    rw [xor_iff_iff_not, directoryFile_mem_files_iff hc, iff_true_left hfile, not_or,
      and_iff_right hname]
  have hdeclared : c.schemas.submodules = (groups.keys.map moduleName).map .plain := by
    rw [submodules_of_ofSchemas hc.schemas, List.map_map]
    rfl
  rw [hdeclared, resolvesModules_map_plain_iff, and_iff_right hmodules, List.forall_mem_map]
  exact forall₂_congr hfound

/-- A module that the root lists is found at exactly one place when a supplied directory of its name
is there if and only if no file is. -/
lemma found_iff (hc : IsGenerated groups o es c) {i : Identifier} (hslash : '/' ∉ i.name.toList) :
    Xor (moduleFile ("" ++ i.name) ∈ Table.keys (c.files ++ o.supplied))
        (directoryFile ("" ++ i.name) ∈ Table.keys (c.files ++ o.supplied)) ↔
      (i.name ≠ "schemas" →
        (directoryFile i.name ∈ o.supplied.keys ↔ i.name ∉ "lib" :: c.names)) := by
  rw [String.empty_append, moduleFile_mem_files_iff hc hslash, directoryFile_mem_files_iff hc]
  by_cases hschemas : i.name = "schemas"
  · simp [hschemas]
  · rw [xor_iff_not_iff']
    simp only [hschemas, ne_eq, not_false_eq_true, true_and, false_or, true_imp_iff]
    exact iff_comm

/-- The root resolves when it declares no module twice and each has one place. -/
lemma resolvesModules_root_iff (hc : IsGenerated groups o es c) :
    ResolvesModules (Table.keys (c.files ++ o.supplied)) "" c.root.submodules ↔
      (c.root.submodules.map Identifier.name).Nodup ∧
      ∀ i ∈ c.root.submodules, i.name ≠ "schemas" →
        (directoryFile i.name ∈ o.supplied.keys ↔ i.name ∉ "lib" :: c.names) := by
  have hslash : ∀ i ∈ c.root.submodules, '/' ∉ i.name.toList := by
    intro i hi
    have hread := (forall₂_submodules_of_ofModules hc.root).flip
    obtain ⟨name, _, hname⟩ := exists_mem_of_forall₂ hread hi
    exact slash_not_mem_of_parse hname
  constructor
  · rintro ⟨hnodup, hfound⟩
    exact ⟨hnodup, fun i hi => (found_iff hc (hslash i hi)).mp (hfound i hi)⟩
  · rintro ⟨hnodup, hfound⟩
    exact ⟨hnodup, fun i hi => (found_iff hc (hslash i hi)).mpr (hfound i hi)⟩

/-- When supplied files are named as the modules that they are, the root declares its modules by
their names. -/
lemma submodules_root (hc : IsGenerated groups o es c)
    (hspelled : ∀ name ∈ suppliedModules o.supplied, Identifier.parse? name = some (.plain name)) :
    c.root.submodules = c.names.map .plain := by
  have hown : ∀ name ∈ o.ownModules, Identifier.parse? name = some (.plain name) := by
    unfold Options.ownModules
    split <;> decide +kernel
  have hall : ∀ name ∈ c.names, Identifier.parse name = .ok (.plain name) := by
    intro name hname
    rw [(names_of_modules hc.names).2.2, List.mem_append] at hname
    rcases hname with hname | hname
    · exact Identifier.parse_eq_ok_iff.mpr (hown name hname)
    · exact Identifier.parse_eq_ok_iff.mpr (hspelled name hname)
  have hroot := forall₂_submodules_of_ofModules hc.root
  have hplain := mapM_eq_ok_of_forall hall
  exact Except.ok.inj (((mapM_eq_ok_iff _ _ _).mpr hroot).symm.trans hplain)

/-- Then the root resolves unless one of its modules is supplied with a directory of its own. -/
lemma resolvesModules_root_of_spelled (hc : IsGenerated groups o es c)
    (hspelled : ∀ name ∈ suppliedModules o.supplied, Identifier.parse? name = some (.plain name)) :
    ResolvesModules (Table.keys (c.files ++ o.supplied)) "" c.root.submodules ↔
      ∀ name ∈ c.names, name ≠ "schemas" → directoryFile name ∉ o.supplied.keys := by
  have hdeclared := submodules_root hc hspelled
  have hnames : (c.root.submodules.map Identifier.name) = c.names := by
    rw [hdeclared, List.map_map]
    exact List.map_id c.names
  rw [resolvesModules_root_iff hc, hnames, and_iff_right (names_of_modules hc.names).1, hdeclared,
    List.forall_mem_map]
  refine forall₂_congr fun name hname => imp_congr_right fun _ => ?_
  have htaken : ¬ name ∉ "lib" :: c.names := not_not.mpr (List.mem_cons_of_mem _ hname)
  exact iff_false_right htaken

end

/-! ### Compiled clients -/

/-- Which declarations of a compiled client are found at exactly one place. Those of the groups are
unless a group is supplied with a directory of its own. Those of the root are when no name is
declared twice and a directory of the name of a module, the schemas apart, is supplied for those
modules alone that have no file at the top; if supplied files are named as the modules that they
are, this is to say that none of the modules is supplied with a directory of its own. -/
theorem resolvesModules_of_compile {η : Type} {groups : Groups} {o : Options} {files : Artifacts}
    (h : (compile groups o : Traced η Artifacts).result = .ok files) :
    ∃ es c, IsGenerated groups o es c ∧ files.find? "lib.rs" = some c.root.text ∧
      files.find? "schemas/mod.rs" = some c.schemas.text ∧
      (ResolvesModules files.keys "schemas/" c.schemas.submodules ↔
        ∀ g ∈ groups.keys, directoryFile ("schemas/" ++ moduleName g) ∉ o.supplied.keys) ∧
      (ResolvesModules files.keys "" c.root.submodules ↔
        (c.root.submodules.map Identifier.name).Nodup ∧
        ∀ i ∈ c.root.submodules, i.name ≠ "schemas" →
          (directoryFile i.name ∈ o.supplied.keys ↔ i.name ∉ "lib" :: c.names)) ∧
      ((∀ name ∈ suppliedModules o.supplied, Identifier.parse? name = some (.plain name)) →
        (ResolvesModules files.keys "" c.root.submodules ↔
          ∀ name ∈ c.names, name ≠ "schemas" → directoryFile name ∉ o.supplied.keys)) := by
  obtain ⟨es, c, hc, rfl, hnodup⟩ := exists_generated_of_compile h
  exact ⟨es, c, hc, Generated.find?_files hnodup c.root_mem_files,
    Generated.find?_files hnodup c.schemas_mem_files, resolvesModules_schemas_iff hc,
    resolvesModules_root_iff hc, resolvesModules_root_of_spelled hc⟩

/-- A group of items. -/
def itemGroups : Groups := [("items", [.new "listItems" .get "/items"])]

/-- Supplied files: a module with a part of its own, and a text next to the schemas. -/
def partedOptions : Options :=
  ⟨"crate::errors", [("client.rs", "pub mod parts;"), ("client/parts.rs", ""),
    ("schemas/notes.md", "")]⟩

theorem resolvesModules_itemGroups : ∃ files es c,
    (compile itemGroups partedOptions : Traced Unit Artifacts).result = .ok files ∧
    IsGenerated itemGroups partedOptions es c ∧
    ResolvesModules files.keys "schemas/" c.schemas.submodules ∧
    ResolvesModules files.keys "" c.root.submodules := by
  obtain ⟨files, hfiles⟩ :
      ∃ files, (compile itemGroups partedOptions : Traced Unit Artifacts).result = .ok files :=
    exists_eq_ok (by decide +kernel)
  obtain ⟨es, c, hc, _, _, hschemas, _, hroot⟩ := resolvesModules_of_compile hfiles
  have hspelled : ∀ name ∈ suppliedModules partedOptions.supplied,
      Identifier.parse? name = some (.plain name) := by decide +kernel
  refine ⟨files, es, c, hfiles, hc, hschemas.mpr (by decide +kernel), ?_⟩
  refine (hroot hspelled).mpr fun name hname hne => ?_
  -- No supplied file is the one of a directory.
  have hending : ∀ path ∈ partedOptions.supplied.keys, ¬ "/mod.rs".toList <:+ path.toList := by
    decide +kernel
  intro hmem
  refine hending _ hmem ?_
  rw [toList_directoryFile]
  exact List.suffix_append _ _

/-- Supplied files: a second file for a generated module and for a group, and a file whose name has
a blank in front. -/
def straySupplied : Options :=
  ⟨"crate::errors", [("endpoints/mod.rs", ""), ("schemas/items/mod.rs", ""), (" client.rs", "")]⟩

/-- They are accepted, and the client has two files for the endpoints, two for the group and none
for the module of the last one. -/
theorem not_resolvesModules_itemGroups : ∃ files es c,
    (compile itemGroups straySupplied : Traced Unit Artifacts).result = .ok files ∧
    IsGenerated itemGroups straySupplied es c ∧
    files.find? "lib.rs" = some c.root.text ∧ files.find? "schemas/mod.rs" = some c.schemas.text ∧
    .plain "endpoints" ∈ c.root.submodules ∧
    "endpoints.rs" ∈ files.keys ∧ "endpoints/mod.rs" ∈ files.keys ∧
    .plain "client" ∈ c.root.submodules ∧
    "client.rs" ∉ files.keys ∧ "client/mod.rs" ∉ files.keys ∧
    .plain "items" ∈ c.schemas.submodules ∧
    "schemas/items.rs" ∈ files.keys ∧ "schemas/items/mod.rs" ∈ files.keys ∧
    ¬ ResolvesModules files.keys "" c.root.submodules ∧
    ¬ ResolvesModules files.keys "schemas/" c.schemas.submodules := by
  obtain ⟨files, hfiles⟩ :
      ∃ files, (compile itemGroups straySupplied : Traced Unit Artifacts).result = .ok files :=
    exists_eq_ok (by decide +kernel)
  obtain ⟨es, c, hc, rfl, hnodup⟩ := exists_generated_of_compile hfiles
  obtain ⟨_, _, hnames⟩ := names_of_modules hc.names
  have hkeys := mem_keys_files_iff hc
  have hreadEndpoints : Identifier.parse? "endpoints" = some (.plain "endpoints") := by
    decide +kernel
  have hreadClient : Identifier.parse? " client" = some (.plain "client") := by decide +kernel
  have hendpoints : .plain "endpoints" ∈ c.root.submodules :=
    mem_submodules_root hc hreadEndpoints (by rw [hnames]; decide +kernel)
  have hclient : .plain "client" ∈ c.root.submodules :=
    mem_submodules_root hc hreadClient (by rw [hnames]; decide +kernel)
  have hitems : .plain "items" ∈ c.schemas.submodules := by
    rw [submodules_of_ofSchemas hc.schemas]
    decide +kernel
  have htwice : "endpoints.rs" ∈ Table.keys (c.files ++ straySupplied.supplied) ∧
      "endpoints/mod.rs" ∈ Table.keys (c.files ++ straySupplied.supplied) := by
    rw [hkeys, hkeys]
    decide +kernel
  have hnowhere : "client.rs" ∉ Table.keys (c.files ++ straySupplied.supplied) ∧
      "client/mod.rs" ∉ Table.keys (c.files ++ straySupplied.supplied) := by
    rw [hkeys, hkeys]
    decide +kernel
  have hgroup : "schemas/items.rs" ∈ Table.keys (c.files ++ straySupplied.supplied) ∧
      "schemas/items/mod.rs" ∈ Table.keys (c.files ++ straySupplied.supplied) := by
    rw [hkeys, hkeys]
    decide +kernel
  refine ⟨_, es, c, hfiles, hc, Generated.find?_files hnodup c.root_mem_files,
    Generated.find?_files hnodup c.schemas_mem_files, hendpoints, htwice.1, htwice.2, hclient,
    hnowhere.1, hnowhere.2, hitems, hgroup.1, hgroup.2, fun hresolves => ?_, fun hresolves => ?_⟩
  · rcases hresolves.found _ hendpoints with ⟨_, hfree⟩ | ⟨_, hfree⟩
    · exact hfree htwice.2
    · exact hfree htwice.1
  · rcases hresolves.found _ hitems with ⟨_, hfree⟩ | ⟨_, hfree⟩
    · exact hfree hgroup.2
    · exact hfree hgroup.1

end ApiContract.Client
