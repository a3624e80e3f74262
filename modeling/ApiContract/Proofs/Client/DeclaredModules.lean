import ApiContract.Proofs.Client.Artifacts

/-!
# The modules of a client and their files

The root module of a client lists its modules, and this list is made apart from the files: from the
names of the generated modules and from the supplied files at the top. Adding a module fails when it
is there already (`foldlM_addModule_eq_ok_iff`), so the list is without repetition. That it has
exactly the modules whose files are at the top needs a look at the error module alone, which is
declared under one condition and generated under another (`mem_names_iff`).

With the files of `exists_generated_of_compile` this says what a compiled client is
(`files_of_compile`).
-/

namespace ApiContract.Client

/-! ### Files at the top -/

/-- The file of a module at the top. -/
def moduleFile (name : String) : String := name ++ ".rs"

lemma moduleFile_inj {name other : String} : moduleFile name = moduleFile other ↔ name = other :=
  String.append_left_inj _

lemma toList_moduleFile (name : String) : (moduleFile name).toList = name.toList ++ ".rs".toList :=
  String.toList_append

lemma slash_mem_moduleFile {name : String} :
    '/' ∈ (moduleFile name).toList ↔ '/' ∈ name.toList := by
  rw [toList_moduleFile, List.mem_append]
  exact or_iff_left (by decide)

/-- A supplied file is a module when it is at the top, has the ending of modules and is not that of
the error types, which is declared by itself. -/
lemma moduleOfFile?_eq_some_iff {path name : String} :
    moduleOfFile? path = some name ↔
      path = moduleFile name ∧ '/' ∉ path.toList ∧ path ≠ errorsFile := by
  unfold moduleOfFile?
  dsimp only
  split
  · rename_i hout
    refine iff_of_false nofun ?_
    rintro ⟨rfl, hslash, herrors⟩
    have hsuffix : ".rs".toList.isSuffixOf (moduleFile name).toList = true := by
      rw [List.isSuffixOf_iff_suffix, toList_moduleFile]
      exact List.suffix_append _ _
    rw [hsuffix, beq_eq_false_iff_ne.mpr herrors, Bool.or_false, Bool.not_true,
      Bool.or_false] at hout
    exact hslash (List.contains_iff_mem.mp hout)
  · rename_i hin
    rw [Bool.not_eq_true, Bool.or_eq_false_iff, Bool.or_eq_false_iff, Bool.not_eq_false'] at hin
    obtain ⟨⟨hslash, herrors⟩, hsuffix⟩ := hin
    obtain ⟨stem, hstem⟩ := List.isSuffixOf_iff_suffix.mp hsuffix
    have hpath : path = moduleFile (String.ofList stem) := by
      rw [← String.toList_inj, toList_moduleFile, String.toList_ofList, hstem]
    have htake : path.toList.take (path.toList.length - ".rs".toList.length) = stem := by
      rw [← hstem, List.length_append, Nat.add_sub_cancel, List.take_left]
    have htop : '/' ∉ path.toList ∧ path ≠ errorsFile :=
      ⟨by simpa using hslash, beq_eq_false_iff_ne.mp herrors⟩
    rw [htake, Option.some.injEq, and_iff_left htop, hpath, moduleFile_inj]

lemma mem_suppliedModules_iff (supplied : Artifacts) (name : String) :
    name ∈ suppliedModules supplied ↔
      moduleFile name ∈ supplied.keys ∧ '/' ∉ name.toList ∧ name ≠ "errors" := by
  have herrors : moduleFile name ≠ errorsFile ↔ name ≠ "errors" :=
    not_congr (moduleFile_inj : moduleFile name = moduleFile "errors" ↔ name = "errors")
  simp only [suppliedModules, List.mem_filterMap, moduleOfFile?_eq_some_iff]
  constructor
  · rintro ⟨_, hpath, rfl, hslash, hne⟩
    exact ⟨hpath, mt slash_mem_moduleFile.mpr hslash, herrors.mp hne⟩
  · rintro ⟨hpath, hslash, hne⟩
    exact ⟨_, hpath, rfl, mt slash_mem_moduleFile.mp hslash, herrors.mpr hne⟩

/-! ### The list of modules -/

/-- Modules are put behind the others, which needs them to be new and not the root. -/
lemma foldlM_addModule_eq_ok_iff {names : List String} (hnames : names.Nodup)
    (added all : List String) :
    added.foldlM addModule names = .ok all ↔
      (names ++ added).Nodup ∧ "lib" ∉ added ∧ all = names ++ added := by
  induction added generalizing names with
  | nil =>
    rw [List.append_nil, List.foldlM_nil]
    simp [pure, Except.pure, hnames, eq_comm]
  | cons name rest ih =>
    have hsplit : names ++ name :: rest = (names ++ [name]) ++ rest := by simp
    have hnext : (names ++ [name]).Nodup ↔ name ∉ names := by
      rw [← List.concat_eq_append, List.nodup_concat]
      exact and_iff_left hnames
    rw [List.foldlM_cons, addModule, hsplit]
    split
    · rename_i htaken
      rw [error_bind]
      refine iff_of_false nofun fun ⟨hnodup, hroot, _⟩ => ?_
      have hnew : name ∉ names := hnext.mp hnodup.of_append_left
      have hlib : name ≠ "lib" := fun h => hroot (h ▸ List.mem_cons_self)
      simp [hnew, hlib] at htaken
    · rename_i hfree
      obtain ⟨hlib, hnew⟩ : name ≠ "lib" ∧ name ∉ names := by simpa using hfree
      rw [ok_bind, ih (hnext.mpr hnew)]
      simp [Ne.symm hlib]

lemma nodup_ownModules (o : Options) : o.ownModules.Nodup := by
  unfold Options.ownModules
  cases o.declaresErrors <;> decide

/-- The modules of a client are its own and the supplied ones, each once. -/
lemma names_of_modules {o : Options} {names : List String} (h : modules o = .ok names) :
    names.Nodup ∧ "lib" ∉ suppliedModules o.supplied ∧
      names = o.ownModules ++ suppliedModules o.supplied := by
  obtain ⟨hnodup, hlib, rfl⟩ := (foldlM_addModule_eq_ok_iff (nodup_ownModules o) _ _).mp h
  exact ⟨hnodup, hlib, rfl⟩

lemma mem_ownModules_iff (o : Options) (name : String) :
    name ∈ o.ownModules ↔
      name ∈ ["runtime", "schemas", "endpoints", "stream_endpoints", "dispatch"] ∨
        o.declaresErrors = true ∧ name = "errors" := by
  unfold Options.ownModules
  cases o.declaresErrors with
  | true => simp; grind
  | false => simp

/-- The generated files at the top. -/
lemma moduleFile_mem_generatedPaths_iff (groups : Groups) (o : Options) {name : String}
    (hname : '/' ∉ name.toList) :
    moduleFile name ∈ generatedPaths groups o ↔
      name ∈ ["lib", "runtime", "endpoints", "stream_endpoints", "dispatch"] ∨
        o.generatesErrors = true ∧ name = "errors" := by
  have htop : ∀ path, '/' ∈ path.toList → moduleFile name ≠ path := by
    rintro _ hslash rfl
    exact hname (slash_mem_moduleFile.mp hslash)
  have hgroups : moduleFile name ∉ groups.keys.map groupFile := by
    intro hmem
    obtain ⟨g, _, hg⟩ := List.mem_map.mp hmem
    exact htop _ (slash_mem_groupFile g) hg.symm
  have hothers : pathsBeforeGroups o ++ pathsAfterGroups =
      (["lib", "runtime"] ++ (if o.generatesErrors then ["errors"] else []) ++ ["schemas/mod"] ++
        ["endpoints", "stream_endpoints", "dispatch"]).map moduleFile := by
    unfold pathsBeforeGroups
    cases o.generatesErrors <;> decide
  have hmod : name ≠ "schemas/mod" := by
    rintro rfl
    exact hname (by decide)
  have hmem : moduleFile name ∈ generatedPaths groups o ↔
      moduleFile name ∈ pathsBeforeGroups o ++ pathsAfterGroups := by
    simp only [generatedPaths, List.mem_append, hgroups, or_false]
  rw [hmem, hothers, List.mem_map_of_injective fun _ _ => moduleFile_inj.mp]
  cases o.generatesErrors with
  | true => simp [hmod]; grind
  | false => simp [hmod]

/-- The error module is declared when its file is generated or supplied. -/
lemma declaresErrors_iff (o : Options) :
    o.declaresErrors = true ↔ o.generatesErrors = true ∨ errorsFile ∈ o.supplied.keys := by
  have hhas : o.supplied.has errorsFile = true ↔ errorsFile ∈ o.supplied.keys := by
    rw [Table.has, Option.isSome_iff_ne_none, Ne, Table.find?_eq_none_iff, not_not]
  rw [← hhas, Options.declaresErrors, Options.generatesErrors]
  cases o.supplied.has errorsFile <;> simp

/-- The modules that are listed are the one of the schemas and those whose files are at the top, the
root apart. -/
lemma mem_names_iff {o : Options} {names : List String} (h : modules o = .ok names)
    (groups : Groups) (name : String) :
    name ∈ names ↔ name = "schemas" ∨ (name ≠ "lib" ∧ '/' ∉ name.toList ∧
      moduleFile name ∈ generatedPaths groups o ++ o.supplied.keys) := by
  obtain ⟨_, hlib, rfl⟩ := names_of_modules h
  have hroot : name = "lib" → moduleFile name ∉ o.supplied.keys := by
    rintro rfl hmem
    exact hlib ((mem_suppliedModules_iff _ _).mpr ⟨hmem, by decide, by decide⟩)
  have htop : ∀ n ∈ ["errors", "runtime", "schemas", "endpoints", "stream_endpoints", "dispatch"],
      '/' ∉ n.toList := by decide
  rw [List.mem_append, mem_ownModules_iff, mem_suppliedModules_iff, List.mem_append]
  by_cases hslash : '/' ∈ name.toList
  · refine iff_of_false ?_ ?_
    · rintro ((hown | ⟨_, rfl⟩) | ⟨_, hno, _⟩)
      · exact htop name (List.mem_cons_of_mem _ hown) hslash
      · exact htop _ List.mem_cons_self hslash
      · exact hno hslash
    · rintro (rfl | ⟨_, hno, _⟩)
      · exact htop "schemas" (by decide) hslash
      · exact hno hslash
  rw [moduleFile_mem_generatedPaths_iff groups o hslash, declaresErrors_iff]
  by_cases herrors : name = "errors"
  · subst herrors
    change _ ↔ _ ∨ _ ∧ _ ∧ (_ ∨ errorsFile ∈ o.supplied.keys)
    simp
  · by_cases hname : name = "lib"
    · subst hname
      simpa using hroot rfl
    · simp only [herrors, hname, hslash, List.mem_cons, List.not_mem_nil]
      grind

/-! ### Compiled clients -/

/-- The files of groups that compile are the generated ones and then the supplied ones, each as it
was made or supplied, and the root lists the modules among them, each once. Groups do not compile
when a supplied file has the path of a generated one or is in place of the schemas. -/
theorem files_of_compile {η : Type} (groups : Groups) (o : Options) :
    (∀ files, (compile groups o : Traced η Artifacts).result = .ok files →
      ∃ es c, IsGenerated groups o es c ∧ files = c.files ++ o.supplied ∧
        c.files.keys = generatedPaths groups o ∧ files.keys.Nodup ∧
        (∀ f ∈ files, files.find? f.1 = some f.2) ∧ c.names.Nodup ∧
        ∀ name, name ∈ c.names ↔ name = "schemas" ∨
          (name ≠ "lib" ∧ '/' ∉ name.toList ∧ moduleFile name ∈ files.keys)) ∧
    ∀ path ∈ o.supplied.keys, path ∈ generatedPaths groups o ∨ path = moduleFile "schemas" →
      ∀ files, (compile groups o : Traced η Artifacts).result ≠ .ok files := by
  constructor
  · intro files h
    obtain ⟨es, c, hc, rfl, hnodup⟩ := exists_generated_of_compile h
    refine ⟨es, c, hc, rfl, hc.keys_files, hnodup, fun f hf => Table.find?_of_mem hnodup hf,
      (names_of_modules hc.names).1, fun name => ?_⟩
    rw [mem_names_iff hc.names groups, ← hc.keys_files]
    simp only [Table.keys, List.map_append]
  · intro path hpath htaken files h
    obtain ⟨es, c, hc, rfl, hnodup⟩ := exists_generated_of_compile h
    rcases htaken with hgenerated | rfl
    · rw [← hc.keys_files] at hgenerated
      rw [Table.keys, List.map_append, List.nodup_append] at hnodup
      exact hnodup.2.2 path hgenerated path hpath rfl
    · obtain ⟨hnames, _, heq⟩ := names_of_modules hc.names
      rw [heq, List.nodup_append] at hnames
      refine hnames.2.2 "schemas" ((mem_ownModules_iff _ _).mpr (.inl (by decide))) "schemas"
        ((mem_suppliedModules_iff _ _).mpr ⟨hpath, by decide, by decide⟩) rfl

/-- Two groups, one of them without an operation. -/
def accountGroups : Groups :=
  [("User Accounts", [{ Operation.new "getUser" .get "/users" with errors := ["NotFound"] }]),
    ("audit", [])]

/-- Supplied files: the error module, a module and a text below a directory. -/
def accountOptions : Options :=
  ⟨"crate::errors", [("client.rs", "pub struct Client;"), ("docs/readme.md", "# Client"),
    ("errors.rs", "pub struct NotFound;")]⟩

theorem files_of_accountGroups : ∃ files es c,
    (compile accountGroups accountOptions : Traced Unit Artifacts).result = .ok files ∧
    IsGenerated accountGroups accountOptions es c ∧
    files.keys = ["lib.rs", "runtime.rs", "schemas/mod.rs", "schemas/user_accounts.rs",
      "schemas/audit.rs", "endpoints.rs", "stream_endpoints.rs", "dispatch.rs", "client.rs",
      "docs/readme.md", "errors.rs"] ∧
    files.find? "errors.rs" = some "pub struct NotFound;" ∧
    (∀ name, name ∈ c.names ↔ name ∈ ["runtime", "errors", "schemas", "endpoints",
      "stream_endpoints", "dispatch", "client"]) ∧
    "schemas/audit.rs" ∈
      generatedPaths accountGroups ⟨"crate::errors", [("schemas/audit.rs", "")]⟩ ∧
    ∀ files, (compile accountGroups ⟨"crate::errors", [("schemas/audit.rs", "")]⟩ :
      Traced Unit Artifacts).result ≠ .ok files := by
  obtain ⟨files, hfiles⟩ :
      ∃ files, (compile accountGroups accountOptions : Traced Unit Artifacts).result = .ok files :=
    exists_eq_ok (by decide +kernel)
  obtain ⟨es, c, hc, hall, hkeys, _, hfind, _, _⟩ :=
    (files_of_compile accountGroups accountOptions).1 files hfiles
  have hnames : modules accountOptions = .ok ["runtime", "errors", "schemas", "endpoints",
      "stream_endpoints", "dispatch", "client"] :=
    (foldlM_addModule_eq_ok_iff (nodup_ownModules _) _ _).mpr (by decide +kernel)
  have hpath : "schemas/audit.rs" ∈
      generatedPaths accountGroups ⟨"crate::errors", [("schemas/audit.rs", "")]⟩ := by
    decide +kernel
  refine ⟨files, es, c, hfiles, hc, ?_, hfind ("errors.rs", _) ?_, fun name => ?_, hpath,
    (files_of_compile accountGroups _).2 _ List.mem_cons_self (.inl hpath)⟩
  · rw [hall, Table.keys, List.map_append]
    change c.files.keys ++ accountOptions.supplied.keys = _
    rw [hkeys]
    decide +kernel
  · rw [hall]
    exact List.mem_append_right _ (by decide)
  · rw [Except.ok.inj (hc.names.symm.trans hnames)]

end ApiContract.Client
