import ApiContract.Client.Registry
import ApiContract.Proofs.Client.Endpoint
import ApiContract.Proofs.Table

/-!
# What generated modules hold

A generated module is a list of items. The views here take out of it what a reader of the generated
code finds by name: the names that it defines, its builders, dispatch tables and look-ups, its lists
of keys and the implementations of endpoints. Each generator has one lemma that says what its module
shows in these views.
-/

namespace ApiContract.Client

open Code

/-! ### Views -/

/-- What the implementation of an endpoint declares. -/
structure Implementation where
  isStream : Bool
  marker : Identifier
  key : String
  schema : Path

namespace Item

/-- The names that an item brings into the scope of its module. -/
def names : Item → List Identifier
  | .imports _ names => names
  | .submodule name | .bindings _ name _ | .errorType name _ | .marker _ name | .union _ name _ _
  | .keyList _ name _ | .builder _ name _ | .rows _ name _ | .lookup _ name _ => [name]
  | .constant c => [c.name]
  | .endpoint .. | .streamEndpoint .. => []

/-- A builder with its plan. -/
def builder? : Item → Option (Identifier × RequestPlan)
  | .builder _ name plan => some (name, plan)
  | _ => none

/-- A dispatch table with its rows. -/
def table? : Item → Option (Identifier × List Row)
  | .rows _ name entries => some (name, entries)
  | _ => none

/-- A look-up with the name of its table. -/
def lookup? : Item → Option (Identifier × Identifier)
  | .lookup _ name table => some (name, table)
  | _ => none

/-- A list of keys. -/
def keyList? : Item → Option (Identifier × List String)
  | .keyList _ name keys => some (name, keys)
  | _ => none

/-- The implementation of an endpoint. -/
def implementation? : Item → Option Implementation
  | .endpoint owner key schema _ _ => some ⟨false, owner, key, schema⟩
  | .streamEndpoint owner key schema _ => some ⟨true, owner, key, schema⟩
  | _ => none

end Item

namespace Module

/-- The names that a module defines or imports. -/
def names (m : Module) : List Identifier := m.items.flatMap Item.names

/-- The builders of a module by name. -/
def builders (m : Module) : Table Identifier RequestPlan := m.items.filterMap Item.builder?

/-- The dispatch tables of a module by name. -/
def tables (m : Module) : Table Identifier (List Row) := m.items.filterMap Item.table?

/-- The look-ups of a module by name. -/
def lookups (m : Module) : Table Identifier Identifier := m.items.filterMap Item.lookup?

/-- The lists of keys of a module by name. -/
def keyLists (m : Module) : Table Identifier (List String) := m.items.filterMap Item.keyList?

/-- The implementations in a module. -/
def implementations (m : Module) : List Implementation := m.items.filterMap Item.implementation?

/-- What a look-up answers for a key: the first row of its table with an equal key. -/
def answer (m : Module) (lookup : Identifier) (key : String) : Option Row :=
  ((m.lookups.find? lookup).bind m.tables.find?).bind fun rows =>
    rows.find? fun row => row.key = key

/-- The first implementation for a marker. -/
def implementationOf (m : Module) (marker : Identifier) : Option Implementation :=
  m.implementations.find? fun i => i.marker = marker

end Module

/-! ### Dispatch -/

/-- The row of an endpoint has its key, its schema and the name of its builder. -/
structure IsRowOf (e : Endpoint) (row : Row) : Prop where
  key : row.key = e.key.text
  schema : Path.parse e.schema.text = .ok row.schema
  build : row.build = .plain e.builderName

lemma isRowOf_of_dispatchRow {e : Endpoint} {row : Row} (h : dispatchRow e = .ok row) :
    IsRowOf e row := by
  unfold dispatchRow at h
  obtain ⟨schema, hschema, h⟩ := bind_eq_ok_iff.mp h
  obtain ⟨build, hbuild, h⟩ := bind_eq_ok_iff.mp h
  cases h
  exact ⟨rfl, hschema, eq_plain_of_parse_builderName hbuild⟩

lemma exists_of_builderItem {e : Endpoint} {item : Item} (h : builderItem e = .ok item) :
    ∃ doc, item = .builder doc (.plain e.builderName) (requestPlan e) := by
  unfold builderItem at h
  obtain ⟨name, hname, h⟩ := bind_eq_ok_iff.mp h
  cases h
  exact ⟨_, by rw [eq_plain_of_parse_builderName hname]⟩

/-- The names of the dispatch module besides those of its builders. -/
def dispatchNames : List Identifier :=
  .plain "Value" :: dispatchImports.map .plain ++
    [.plain "DISPATCH", .plain "STREAM_DISPATCH", .plain "lookup", .plain "lookup_stream"]

/-- Builders show only as builders and as names. -/
lemma views_of_builderItems {es : List Endpoint} {items : List Item}
    (h : List.Forall₂ (fun e item => builderItem e = .ok item) es items) :
    items.filterMap Item.builder? = es.map (fun e => (.plain e.builderName, requestPlan e)) ∧
    items.flatMap Item.names = es.map (fun e => .plain e.builderName) ∧
    items.filterMap Item.table? = [] ∧ items.filterMap Item.lookup? = [] := by
  induction h with
  | nil => exact ⟨rfl, rfl, rfl, rfl⟩
  | cons hitem _ ih =>
    obtain ⟨doc, rfl⟩ := exists_of_builderItem hitem
    obtain ⟨hbuilders, hnames, htables, hlookups⟩ := ih
    refine ⟨?_, ?_, ?_, ?_⟩
    · rw [List.map_cons, ← hbuilders]
      rfl
    · rw [List.map_cons, ← hnames]
      rfl
    · exact htables
    · exact hlookups

lemma forall₂_isRowOf {es : List Endpoint} {rows : List Row} (h : es.mapM dispatchRow = .ok rows) :
    List.Forall₂ IsRowOf es rows :=
  ((mapM_eq_ok_iff _ _ _).mp h).imp fun _ _ => isRowOf_of_dispatchRow

/-- The dispatch module has a builder for every endpoint and a table for each of the two kinds of
endpoints, with one row an endpoint, and looks keys up in these tables. -/
theorem ofDispatch_spec {all : List Endpoint} {m : Module} (h : Module.ofDispatch all = .ok m) :
    m.builders = all.map (fun e => (.plain e.builderName, requestPlan e)) ∧
    m.names.Perm (dispatchNames ++ all.map fun e => .plain e.builderName) ∧
    m.lookups = [(.plain "lookup", .plain "DISPATCH"),
      (.plain "lookup_stream", .plain "STREAM_DISPATCH")] ∧
    ∃ rows streamRows, m.tables = [(.plain "DISPATCH", rows),
        (.plain "STREAM_DISPATCH", streamRows)] ∧
      List.Forall₂ IsRowOf (Endpoint.standard all) rows ∧
      List.Forall₂ IsRowOf (Endpoint.streams all) streamRows := by
  unfold Module.ofDispatch at h
  obtain ⟨builders, hbuilders, h⟩ := bind_eq_ok_iff.mp h
  obtain ⟨rows, hrows, h⟩ := bind_eq_ok_iff.mp h
  obtain ⟨streamRows, hstreamRows, h⟩ := bind_eq_ok_iff.mp h
  cases h
  obtain ⟨hplans, hnames, htables, hlookups⟩ :=
    views_of_builderItems ((mapM_eq_ok_iff _ _ _).mp hbuilders)
  refine ⟨?_, ?_, ?_, rows, streamRows, ?_, forall₂_isRowOf hrows, forall₂_isRowOf hstreamRows⟩
  · rw [Module.builders, List.filterMap_append, List.filterMap_append, hplans]
    exact List.append_nil _
  · simp only [Module.names, List.flatMap_append, hnames, dispatchNames]
    simp only [List.flatMap_cons, List.flatMap_nil, Item.names, List.append_nil, List.append_assoc,
      List.cons_append, List.nil_append]
    refine List.Perm.cons _ (List.Perm.append_left _ ?_)
    exact List.perm_append_comm
  · rw [Module.lookups, List.filterMap_append, List.filterMap_append, hlookups]
    rfl
  · rw [Module.tables, List.filterMap_append, List.filterMap_append, htables]
    rfl

/-! ### Registries -/

/-- The implementation of an endpoint has its marker, its key and its schema. -/
structure IsImplementationOf (isStream : Bool) (e : Endpoint) (i : Implementation) : Prop where
  isStream : i.isStream = isStream
  marker : Identifier.parse e.marker = .ok i.marker
  key : i.key = e.key.text
  schema : Path.parse e.schema.text = .ok i.schema

/-- Items of endpoints, each with one implementation and no list of keys, show the implementations
in order. -/
lemma views_of_endpointItems {isStream : Bool} {f : Endpoint → Except Error (List Item)}
    (hf : ∀ e items, f e = .ok items → items.filterMap Item.keyList? = [] ∧
      ∃ i, items.filterMap Item.implementation? = [i] ∧ IsImplementationOf isStream e i)
    {es : List Endpoint} {items : List (List Item)} (h : es.mapM f = .ok items) :
    items.flatten.filterMap Item.keyList? = [] ∧
    List.Forall₂ (IsImplementationOf isStream) es
      (items.flatten.filterMap Item.implementation?) := by
  have hall := (mapM_eq_ok_iff _ _ _).mp h
  clear h
  induction hall with
  | nil => exact ⟨rfl, .nil⟩
  | cons hitem _ ih =>
    obtain ⟨hkeys, i, hone, hi⟩ := hf _ _ hitem
    obtain ⟨hrest, hall⟩ := ih
    rw [List.flatten_cons, List.filterMap_append, List.filterMap_append, hkeys, hrest, hone]
    exact ⟨rfl, .cons hi hall⟩

lemma views_of_standardItems (e : Endpoint) (items : List Item) (h : standardItems e = .ok items) :
    items.filterMap Item.keyList? = [] ∧
    ∃ i, items.filterMap Item.implementation? = [i] ∧ IsImplementationOf false e i := by
  unfold standardItems at h
  obtain ⟨marker, hmarker, h⟩ := bind_eq_ok_iff.mp h
  obtain ⟨union, _, h⟩ := bind_eq_ok_iff.mp h
  obtain ⟨schema, hschema, h⟩ := bind_eq_ok_iff.mp h
  obtain ⟨invalid, _, h⟩ := bind_eq_ok_iff.mp h
  obtain ⟨errors, _, h⟩ := bind_eq_ok_iff.mp h
  cases h
  exact ⟨rfl, ⟨false, marker, e.key.text, schema⟩, rfl, rfl, hmarker, rfl, hschema⟩

lemma views_of_streamItems (e : Endpoint) (items : List Item) (h : streamItems e = .ok items) :
    items.filterMap Item.keyList? = [] ∧
    ∃ i, items.filterMap Item.implementation? = [i] ∧ IsImplementationOf true e i := by
  unfold streamItems at h
  obtain ⟨marker, hmarker, h⟩ := bind_eq_ok_iff.mp h
  obtain ⟨schema, hschema, h⟩ := bind_eq_ok_iff.mp h
  cases h
  exact ⟨rfl, ⟨true, marker, e.key.text, schema⟩, rfl, rfl, hmarker, rfl, hschema⟩

/-- The registry of endpoints that answer once implements each of them, in order, and lists their
keys. -/
theorem ofEndpoints_spec {errorsModule : String} {all : List Endpoint} {m : Module}
    (h : Module.ofEndpoints errorsModule all = .ok m) :
    m.keyLists = [(.plain "ENDPOINT_KEYS", keyTexts (Endpoint.standard all))] ∧
    List.Forall₂ (IsImplementationOf false) (Endpoint.standard all) m.implementations := by
  unfold Module.ofEndpoints at h
  obtain ⟨errorsPath, _, h⟩ := bind_eq_ok_iff.mp h
  obtain ⟨errors, _, h⟩ := bind_eq_ok_iff.mp h
  obtain ⟨items, hitems, h⟩ := bind_eq_ok_iff.mp h
  obtain ⟨_, _, h⟩ := bind_eq_ok_iff.mp h
  cases h
  obtain ⟨hkeys, himpls⟩ := views_of_endpointItems views_of_standardItems hitems
  have himports : ∀ {β : Type} (f : Item → Option β),
      (∀ path names, f (.imports path names) = none) →
      (if (Endpoint.standard all).isEmpty then [] else
        registryImports errorsPath errors).filterMap f = [] := by
    intro β f hf
    split
    · rfl
    · simp [registryImports, hf]
  constructor
  · simp only [Module.keyLists, List.filterMap_append, hkeys]
    rw [himports Item.keyList? fun _ _ => rfl]
    rfl
  · simp only [Module.implementations, List.filterMap_append]
    rw [himports Item.implementation? fun _ _ => rfl, List.nil_append]
    exact (List.append_nil _).symm ▸ himpls

/-- The registry of endpoints that answer with a stream implements each of them, in order, and lists
their keys. -/
theorem ofStreams_spec {all : List Endpoint} {m : Module} (h : Module.ofStreams all = .ok m) :
    m.keyLists = [(.plain "STREAM_ENDPOINT_KEYS", keyTexts (Endpoint.streams all))] ∧
    List.Forall₂ (IsImplementationOf true) (Endpoint.streams all) m.implementations := by
  unfold Module.ofStreams at h
  obtain ⟨items, hitems, h⟩ := bind_eq_ok_iff.mp h
  cases h
  obtain ⟨hkeys, himpls⟩ := views_of_endpointItems views_of_streamItems hitems
  constructor
  · simp only [Module.keyLists, List.filterMap_append, hkeys]
    split <;> rfl
  · simp only [Module.implementations, List.filterMap_append]
    split <;> exact (List.append_nil _).symm ▸ himpls

end ApiContract.Client
