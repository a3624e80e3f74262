import ApiContract.Proofs.Client.Artifacts

/-!
# Where schemas are bound

The schema module of a group binds the expressions of its operations, and every endpoint has a path
to the constant of its own variant. Paths and constants are computed apart from each other; what
ties them together is that the places of the constants are, in order, those of the paths
(`keys_bound_of_ofGroup`). So validation, which compares the paths, keeps the places distinct, and a
path denotes one constant (`schemas_resolve_of_compile`).

Validation does not compare the names of the modules within a schema module: operations with several
variants may share one when their tags differ. The theorem says exactly when they do not, and
`uploadGroups_repeats` is about a group where they do.
-/

namespace ApiContract.Client

open Code

/-! ### Views -/

namespace Item

/-- A module in a file of its own. -/
def submodule? : Item → Option Identifier
  | .submodule name => some name
  | _ => none

/-- A module within the module, with its constants. -/
def nested? : Item → Option (Identifier × List Constant)
  | .bindings _ name constants => some (name, constants)
  | _ => none

/-- A constant of the module itself. -/
def constant? : Item → Option Constant
  | .constant c => some c
  | _ => none

/-- The constants of an item by their place: the module within the module, if any, and the name. -/
def bound : Item → Table (Option Identifier × Identifier) Constant
  | .bindings _ name constants => constants.map fun c => ((some name, c.name), c)
  | .constant c => [((none, c.name), c)]
  | _ => []

end Item

/-- The place of a schema within the module of its group. -/
def SchemaPath.place (p : SchemaPath) : Option Identifier × Identifier :=
  (p.nested.map .plain, .plain p.constant)

namespace Module

/-- The modules in files of their own. -/
def submodules (m : Module) : List Identifier := m.items.filterMap Item.submodule?

/-- The modules within a module. -/
def nested (m : Module) : Table Identifier (List Constant) := m.items.filterMap Item.nested?

/-- The constants of a module itself. -/
def constants (m : Module) : List Constant := m.items.filterMap Item.constant?

/-- All constants of a module by their place. -/
def bound (m : Module) : Table (Option Identifier × Identifier) Constant :=
  m.items.flatMap Item.bound

/-- The constants that a path denotes in the module of its group. -/
def denoted (m : Module) (p : SchemaPath) : List Constant :=
  (m.bound.filter fun b => b.1 = p.place).map Prod.snd

end Module

/-- The constant is what the schemas of the operation of an endpoint bind for its variant, and it
holds the expression of that variant, or nothing when there is no variant. -/
inductive IsBindingOf (e : Endpoint) (c : Constant) : Prop where
  | variant {tag doc : String} {name : Identifier} {constants : List Constant}
      (hvariant : e.variant = some tag)
      (hitem : schemaItem e.operation = .ok (.bindings doc name constants)) (hmem : c ∈ constants)
      (hconstant : variantConstant tag c.value = .ok c)
      (hvalue : e.operation.schemas.find? tag = some c.value)
  | single (hvariant : e.variant = none) (hitem : schemaItem e.operation = .ok (.constant c))
      (hvalue : e.operation.schemas.values = [c.value] ∨
        e.operation.schemas = [] ∧ c.value = "")

/-! ### The schemas of an operation -/

lemma name_value_of_variantConstant {tag expression : String} {c : Constant}
    (h : variantConstant tag expression = .ok c) :
    c.name = .plain (constName tag) ∧ c.value = expression := by
  unfold variantConstant at h
  obtain ⟨name, hname, h⟩ := bind_eq_ok_iff.mp h
  cases h
  exact ⟨eq_plain_of_parse_constName hname, rfl⟩

/-- Several variants are bound in a module named like the operation, one constant a variant. -/
lemma schemaItem_of_variants {op : Operation} {item : Item} (hvariants : op.hasVariants = true)
    (h : schemaItem op = .ok item) :
    ∃ doc constants, item = .bindings doc (.plain (moduleName op.name)) constants ∧
      List.Forall₂ (fun s c => variantConstant s.1 s.2 = .ok c) op.schemas constants := by
  unfold schemaItem at h
  rw [if_pos hvariants] at h
  obtain ⟨name, hname, h⟩ := bind_eq_ok_iff.mp h
  obtain ⟨constants, hconstants, h⟩ := bind_eq_ok_iff.mp h
  cases h
  rw [eq_plain_of_parse_moduleName hname]
  exact ⟨_, constants, rfl, (mapM_eq_ok_iff _ _ _).mp hconstants⟩

/-- Without several variants there is one constant, named like the operation. -/
lemma schemaItem_of_single {op : Operation} {item : Item} (hsingle : op.hasVariants = false)
    (h : schemaItem op = .ok item) :
    ∃ c, item = .constant c ∧ c.name = .plain (constName op.name) ∧
      (op.schemas.values = [c.value] ∨ op.schemas = [] ∧ c.value = "") := by
  unfold schemaItem at h
  rw [if_neg (by simp [hsingle])] at h
  obtain ⟨name, hname, h⟩ := bind_eq_ok_iff.mp h
  cases h
  refine ⟨_, rfl, eq_plain_of_parse_constName hname, ?_⟩
  have hlength : op.schemas.length ≤ 1 := by simpa [Operation.hasVariants] using hsingle
  match hschemas : op.schemas, hlength with
  | [], _ => exact Or.inr ⟨rfl, rfl⟩
  | [s], _ => exact Or.inl rfl

/-- The places of the constants of an operation are those of its endpoints. -/
lemma keys_bound_of_schemaItem {group : String} {op : Operation} {own : List Endpoint} {item : Item}
    (hown : Endpoint.ofOperation group op = .ok own) (hitem : schemaItem op = .ok item) :
    item.bound.keys = own.map fun e => e.schema.place := by
  unfold Endpoint.ofOperation at hown
  obtain ⟨placement, _, hown⟩ := bind_eq_ok_iff.mp hown
  cases hvariants : op.hasVariants with
  | true =>
    rw [hvariants, if_pos rfl] at hown
    cases hown
    obtain ⟨doc, constants, rfl, hconstants⟩ := schemaItem_of_variants hvariants hitem
    have hplaces : List.Forall₂ (fun tag (c : Constant) => c.name = .plain (constName tag))
        op.schemas.keys constants := by
      rw [Table.keys, List.forall₂_map_left_iff]
      exact hconstants.imp fun _ _ hc => (name_value_of_variantConstant hc).1
    rw [Item.bound, Table.keys, List.map_map, List.map_map]
    refine map_eq_map_of_forall₂ hplaces fun tag _ c hc => ?_
    simp only [Function.comp_apply]
    rw [hc]
    rfl
  | false =>
    rw [hvariants, if_neg Bool.false_ne_true] at hown
    cases hown
    obtain ⟨c, rfl, hname, _⟩ := schemaItem_of_single hvariants hitem
    simp [Item.bound, Table.keys, hname, Endpoint.ofSingle, SchemaPath.place]

/-- Every endpoint of an operation has its constant among those of the operation, at the place of
its path, when these places are distinct. -/
lemma exists_isBindingOf {group : String} {op : Operation} {own : List Endpoint} {item : Item}
    (hown : Endpoint.ofOperation group op = .ok own) (hitem : schemaItem op = .ok item)
    (hplaces : (own.map fun e => e.schema.place).Nodup) {e : Endpoint} (he : e ∈ own) :
    ∃ c, (e.schema.place, c) ∈ item.bound ∧ IsBindingOf e c := by
  obtain ⟨placement, hplacement, ⟨hvariants, tag, htag, rfl⟩ | ⟨hsingle, rfl⟩⟩ :=
    Endpoint.exists_of_mem_ofOperation hown he
  · obtain ⟨doc, constants, rfl, hconstants⟩ := schemaItem_of_variants hvariants hitem
    obtain ⟨⟨_, expression⟩, hs, rfl⟩ := List.mem_map.mp htag
    obtain ⟨i, hi⟩ := List.mem_iff_getElem?.mp hs
    obtain ⟨c, hc, hconstant⟩ := exists_getElem?_of_forall₂ hconstants hi
    obtain ⟨hname, rfl⟩ := name_value_of_variantConstant hconstant
    have hmem : c ∈ constants := List.mem_of_getElem? hc
    refine ⟨c, List.mem_map.mpr ⟨c, hmem, ?_⟩, .variant rfl hitem hmem hconstant ?_⟩
    · rw [hname]
      rfl
    · refine Table.find?_of_mem ?_ hs
      -- The places of the endpoints are made from the tags, so the tags are distinct with them.
      unfold Endpoint.ofOperation at hown
      rw [hplacement, ok_bind, if_pos hvariants] at hown
      cases hown
      rw [List.map_map] at hplaces
      exact hplaces.of_map
  · obtain ⟨c, rfl, hname, hvalue⟩ := schemaItem_of_single hsingle hitem
    refine ⟨c, ?_, .single rfl hitem hvalue⟩
    rw [Item.bound, hname]
    exact List.mem_singleton_self _

/-! ### The schemas of a group -/

/-- The items of the schema module of a group are those of its operations in order. -/
lemma forall₂_items_of_ofGroup {group : String} {ops : List Operation} {m : Module}
    (h : Module.ofGroup group ops = .ok m) :
    List.Forall₂ (fun op item => schemaItem op = .ok item) ops m.items := by
  unfold Module.ofGroup at h
  obtain ⟨items, hitems, h⟩ := bind_eq_ok_iff.mp h
  cases h
  exact (mapM_eq_ok_iff _ _ _).mp hitems

/-- The places of the constants of a group are those of its endpoints. -/
theorem keys_bound_of_ofGroup {group : String} {ops : List Operation} {owns : List (List Endpoint)}
    {m : Module} (hm : Module.ofGroup group ops = .ok m)
    (howns : ops.mapM (Endpoint.ofOperation group) = .ok owns) :
    m.bound.keys = owns.flatten.map fun e => e.schema.place := by
  have hitems := forall₂_items_of_ofGroup hm
  clear hm
  unfold Module.bound
  generalize m.items = items at hitems
  induction hitems generalizing owns with
  | nil =>
    cases howns
    rfl
  | cons hitem _ ih =>
    rw [List.mapM_cons] at howns
    obtain ⟨own, hown, howns⟩ := bind_eq_ok_iff.mp howns
    obtain ⟨rest, hrest, howns⟩ := bind_eq_ok_iff.mp howns
    cases howns
    rw [List.flatMap_cons, List.flatten_cons, List.map_append, ← ih hrest,
      ← keys_bound_of_schemaItem hown hitem]
    exact List.map_append

/-- The modules within the schema module of a group are those of the operations with several
variants. -/
lemma keys_nested_of_ofGroup {group : String} {ops : List Operation} {m : Module}
    (hm : Module.ofGroup group ops = .ok m) :
    m.nested.keys =
      (ops.filter Operation.hasVariants).map fun op => .plain (moduleName op.name) := by
  have hitems := forall₂_items_of_ofGroup hm
  clear hm
  unfold Module.nested
  generalize m.items = items at hitems
  induction hitems with
  | nil => rfl
  | @cons op item _ _ hitem _ ih =>
    cases hvariants : op.hasVariants with
    | true =>
      obtain ⟨_, _, rfl, _⟩ := schemaItem_of_variants hvariants hitem
      rw [List.filter_cons_of_pos hvariants, List.map_cons, ← ih]
      rfl
    | false =>
      obtain ⟨_, rfl, _⟩ := schemaItem_of_single hvariants hitem
      rw [List.filter_cons_of_neg (by simp [hvariants]), ← ih]
      rfl

lemma sublist_keys_bound_of_constants (m : Module) :
    (m.constants.map fun c => (none, c.name)).Sublist m.bound.keys := by
  unfold Module.constants Module.bound
  induction m.items with
  | nil => exact List.Sublist.refl _
  | cons item rest ih =>
    rw [List.flatMap_cons, Table.keys, List.map_append]
    cases item with
    | constant c => exact ih.cons_cons _
    | _ => exact ih.trans (List.sublist_append_right _ _)

lemma sublist_keys_bound_of_mem_nested {m : Module} {name : Identifier} {constants : List Constant}
    (h : (name, constants) ∈ m.nested) :
    (constants.map fun c => (some name, c.name)).Sublist m.bound.keys := by
  obtain ⟨item, hitem, hnested⟩ := List.mem_filterMap.mp h
  cases item with
  | bindings doc _ _ =>
    cases hnested
    have hsub : (Item.bindings doc name constants).bound.Sublist m.bound :=
      List.sublist_flatten_of_mem (List.mem_map_of_mem hitem)
    have hkeys := hsub.map Prod.fst
    rw [Item.bound, List.map_map] at hkeys
    exact hkeys
  | _ => cases hnested

/-- The path of an endpoint of a group denotes one constant in the module of the group, when the
places of the endpoints are distinct. -/
lemma exists_denoted {group : String} {ops : List Operation} {owns : List (List Endpoint)}
    {m : Module} (hm : Module.ofGroup group ops = .ok m)
    (howns : ops.mapM (Endpoint.ofOperation group) = .ok owns)
    (hplaces : (owns.flatten.map fun e => e.schema.place).Nodup) {op : Operation} (hop : op ∈ ops)
    {own : List Endpoint} (hown : Endpoint.ofOperation group op = .ok own) {e : Endpoint}
    (he : e ∈ own) : ∃ c, m.denoted e.schema = [c] ∧ IsBindingOf e c := by
  have hkeys := keys_bound_of_ofGroup hm howns
  obtain ⟨own', hmem, hown'⟩ := exists_of_mapM_of_mem howns hop
  obtain rfl : own = own' := Except.ok.inj (hown.symm.trans hown')
  obtain ⟨item, hitem, hschema⟩ : ∃ item ∈ m.items, schemaItem op = .ok item := by
    unfold Module.ofGroup at hm
    obtain ⟨items, hitems, hm⟩ := bind_eq_ok_iff.mp hm
    cases hm
    exact exists_of_mapM_of_mem hitems hop
  have hownPlaces : (own.map fun e => e.schema.place).Nodup :=
    hplaces.sublist ((List.sublist_flatten_of_mem hmem).map _)
  obtain ⟨c, hc, hbinding⟩ := exists_isBindingOf hown hschema hownPlaces he
  have hbound : (e.schema.place, c) ∈ m.bound := List.mem_flatMap.mpr ⟨item, hitem, hc⟩
  refine ⟨c, ?_, hbinding⟩
  rw [Module.denoted, Table.filter_of_mem (hkeys ▸ hplaces) hbound]
  rfl

/-! ### Compiled groups -/

/-- A path can be read back from its module and its place. -/
lemma SchemaPath.eq_of_place (p : SchemaPath) :
    (⟨p.module, p.place.1.map Identifier.name, p.place.2.name⟩ : SchemaPath) = p := by
  obtain ⟨module, nested, constant⟩ := p
  cases nested <;> rfl

/-- Endpoints of one module whose paths are distinct have distinct places there. -/
lemma nodup_places_of_paths {es : List Endpoint} {module : String}
    (hmodule : ∀ e ∈ es, e.schema.module = module)
    (hpaths : (es.map fun e => e.schema.text).Nodup) :
    (es.map fun e => e.schema.place).Nodup := by
  refine List.Nodup.of_map (fun place : Option Identifier × Identifier =>
    SchemaPath.text ⟨module, place.1.map Identifier.name, place.2.name⟩) ?_
  rw [List.map_map]
  refine (List.map_congr_left fun e he => ?_) ▸ hpaths
  rw [Function.comp_apply, ← hmodule e he, SchemaPath.eq_of_place]

/-- The schema module of a group has no constant twice, neither in itself nor in a module within it;
it has no module within it twice exactly when the operations with several variants have different
names of modules; and the path of every endpoint of the group denotes one constant, which is bound
for this endpoint. -/
structure ResolvesSchemas (es : List Endpoint) (group : String) (ops : List Operation)
    (m : Module) : Prop where
  constants : (m.constants.map Constant.name).Nodup
  inner : ∀ b ∈ m.nested, (b.2.map Constant.name).Nodup
  nested : m.nested.keys.Nodup ↔ (ops.filter Operation.hasVariants).Pairwise fun a b =>
    moduleName a.name ≠ moduleName b.name
  denoted : ∀ e ∈ es, e.group = group → e.schema.module = moduleName group ∧
    ∃ c, m.denoted e.schema = [c] ∧ IsBindingOf e c

lemma group_module_of_mem_ofOperation {group : String} {op : Operation} {own : List Endpoint}
    (hown : Endpoint.ofOperation group op = .ok own) {e : Endpoint} (he : e ∈ own) :
    e.group = group ∧ e.schema.module = moduleName group := by
  obtain ⟨_, _, ⟨_, _, _, rfl⟩ | ⟨_, rfl⟩⟩ := Endpoint.exists_of_mem_ofOperation hown he
  · exact ⟨rfl, rfl⟩
  · exact ⟨rfl, rfl⟩

/-- The module of a group resolves the paths of its endpoints when names are distinct. -/
lemma resolvesSchemas_of_distinct {groups : Groups} {es : List Endpoint}
    (hes : Endpoint.ofGroups groups = .ok es) (hdistinct : DistinctNames groups es)
    {group : String} {ops : List Operation} (hg : (group, ops) ∈ groups) {m : Module}
    (hm : Module.ofGroup group ops = .ok m) : ResolvesSchemas es group ops m := by
  obtain ⟨owns, howns, hsub⟩ := Endpoint.exists_ofGroup hes hg
  have hkeys := keys_bound_of_ofGroup hm howns
  have hmodule : ∀ e ∈ owns.flatten, e.schema.module = moduleName group := by
    intro e he
    obtain ⟨own, hmem, he⟩ := List.mem_flatten.mp he
    obtain ⟨op, _, hown⟩ := exists_of_mem_mapM howns hmem
    exact (group_module_of_mem_ofOperation hown he).2
  have hplaces : (owns.flatten.map fun e => e.schema.place).Nodup :=
    nodup_places_of_paths hmodule (hdistinct.schemas.sublist (hsub.map _))
  have hbound : m.bound.keys.Nodup := hkeys ▸ hplaces
  refine ⟨?_, ?_, ?_, ?_⟩
  · have hnames := hbound.sublist (sublist_keys_bound_of_constants m)
    refine List.Nodup.of_map (fun name => ((none : Option Identifier), name)) ?_
    rwa [List.map_map]
  · rintro ⟨name, constants⟩ hb
    have hnames := hbound.sublist (sublist_keys_bound_of_mem_nested hb)
    refine List.Nodup.of_map (fun constant => (some name, constant)) ?_
    rwa [List.map_map]
  · rw [keys_nested_of_ofGroup hm, List.Nodup, List.pairwise_map]
    simp [Identifier.plain]
  · intro e he hgroup
    -- The group of an endpoint has one entry, since names of modules are distinct.
    obtain ⟨⟨group', ops'⟩, hg', op, hop, own, hown, heown⟩ :=
      Endpoint.exists_of_mem_ofGroups hes he
    obtain ⟨hgroup', hmodule'⟩ := group_module_of_mem_ofOperation hown heown
    obtain rfl : group' = group := hgroup'.symm.trans hgroup
    have hnodup : (groups.map Prod.fst).Nodup := hdistinct.modules.of_map
    obtain ⟨_, rfl⟩ : group' = group' ∧ ops' = ops := by
      simpa using List.inj_on_of_nodup_map hnodup hg' hg rfl
    exact ⟨hmodule', exists_denoted hm howns hplaces hop hown heown⟩

/-- A module that lists modules has these. -/
lemma submodules_map_submodule (doc : List String) (is : List Identifier) :
    Module.submodules ⟨doc, is.map .submodule⟩ = is := by
  rw [Module.submodules, List.filterMap_map]
  exact List.filterMap_some

/-- The list of groups has the module of each group. -/
lemma submodules_of_ofSchemas {names : List String} {schemas : Module}
    (h : Module.ofSchemas names = .ok schemas) :
    schemas.submodules = names.map fun name => .plain (moduleName name) := by
  unfold Module.ofSchemas at h
  obtain ⟨is, his, h⟩ := bind_eq_ok_iff.mp h
  cases h
  have hall := (mapM_eq_ok_iff _ _ _).mp his
  have hmap := map_eq_map_of_forall₂ hall fun _ _ _ h => eq_plain_of_parse_moduleName h
  rw [List.map_id'] at hmap
  rw [submodules_map_submodule, hmap]

lemma count_submodules_of_ofSchemas {names : List String} {schemas : Module}
    (h : Module.ofSchemas names = .ok schemas) (hnames : (names.map moduleName).Nodup)
    {name : String} (hname : name ∈ names) :
    schemas.submodules.count (.plain (moduleName name)) = 1 := by
  rw [submodules_of_ofSchemas h]
  refine List.count_eq_one_of_mem (List.Nodup.of_map Identifier.name ?_) (List.mem_map_of_mem hname)
  rwa [List.map_map]

/-- The generated schema modules of groups that compile resolve the paths of all endpoints: the
module of a group is declared once and stands in its file. -/
theorem schemas_resolve_of_compile {η : Type} {groups : Groups} {o : Options} {files : Artifacts}
    (h : (compile groups o : Traced η Artifacts).result = .ok files) :
    ∃ es schemas, Endpoint.ofGroups groups = .ok es ∧ (∀ e ∈ es, e.group ∈ groups.keys) ∧
      Module.ofSchemas groups.keys = .ok schemas ∧
      files.find? "schemas/mod.rs" = some schemas.text ∧
      ∀ group ops, (group, ops) ∈ groups →
        schemas.submodules.count (.plain (moduleName group)) = 1 ∧
        ∃ m, Module.ofGroup group ops = .ok m ∧ files.find? (groupFile group) = some m.text ∧
          ResolvesSchemas es group ops m := by
  obtain ⟨es, schemas, hes, hdistinct, hschemas, hmod, hfiles⟩ := schemas_of_compile h
  refine ⟨es, schemas, hes, fun e he => ?_, hschemas, hmod, fun group ops hg => ?_⟩
  · obtain ⟨g, hg, op, _, own, hown, heown⟩ := Endpoint.exists_of_mem_ofGroups hes he
    rw [(group_module_of_mem_ofOperation hown heown).1]
    exact List.mem_map_of_mem hg
  · obtain ⟨m, hm, hfile⟩ := hfiles _ hg
    exact ⟨count_submodules_of_ofSchemas hschemas hdistinct.modules (List.mem_map_of_mem hg), m, hm,
      hfile, resolvesSchemas_of_distinct hes hdistinct hg hm⟩

/-- A group of two operations that differ in their variants and give one name of a module, and one
without a schema. -/
def uploadGroups : Groups :=
  [("docs", [
    { Operation.new "put" .put "/docs" with schemas := [("csv", "z.csv()"), ("png", "z.png()")] },
    { Operation.new "Put" .post "/docs" with schemas := [("xml", "z.xml()"), ("bin", "z.bin()")] },
    .new "ping" .get "/ping"])]

lemma exists_compile_uploadGroups :
    ∃ files, (compile uploadGroups .standard : Traced Unit Artifacts).result = .ok files :=
  exists_eq_ok (by decide +kernel)

theorem uploadGroups_resolve : ∃ files es ops m,
    (compile uploadGroups .standard : Traced Unit Artifacts).result = .ok files ∧
    Endpoint.ofGroups uploadGroups = .ok es ∧ Table.find? "docs" uploadGroups = some ops ∧
    Module.ofGroup "docs" ops = .ok m ∧ ResolvesSchemas es "docs" ops m ∧
    files.find? "schemas/docs.rs" = some m.text ∧
    (es.map fun e => (m.denoted e.schema).map Constant.value) =
      [["z.csv()"], ["z.png()"], ["z.xml()"], ["z.bin()"], [""]] := by
  obtain ⟨files, hfiles⟩ := exists_compile_uploadGroups
  obtain ⟨es, _, hes, _, _, _, hgroups⟩ := schemas_resolve_of_compile hfiles
  obtain ⟨_, m, hm, hfile, hresolves⟩ := hgroups "docs" _ List.mem_cons_self
  refine ⟨files, es, _, m, hfiles, hes, rfl, hm, hresolves, hfile, ?_⟩
  cases hes
  cases hm
  decide +kernel

/-- The group compiles, and its schema module has the module `put` twice. -/
theorem uploadGroups_repeats : ∃ files ops m,
    (compile uploadGroups .standard : Traced Unit Artifacts).result = .ok files ∧
    Table.find? "docs" uploadGroups = some ops ∧ Module.ofGroup "docs" ops = .ok m ∧
    files.find? "schemas/docs.rs" = some m.text ∧
    m.nested.keys = [.plain "put", .plain "put"] := by
  obtain ⟨files, hfiles⟩ := exists_compile_uploadGroups
  obtain ⟨_, _, _, _, _, _, hgroups⟩ := schemas_of_compile hfiles
  obtain ⟨m, hm, hfile⟩ := hgroups _ List.mem_cons_self
  refine ⟨files, _, m, hfiles, rfl, hm, hfile, ?_⟩
  cases hm
  decide +kernel

end ApiContract.Client
