import ApiContract.Proofs.Client.Collision
import ApiContract.Proofs.Client.Modules

/-!
# The names of builders

The builder of an endpoint is named for its marker, in the casing of functions. Validation compares
markers, but different markers may have the same words in lowercase; so what validation accepts may
define a builder twice, or define one that the dispatch module imports. The dispatch module has no
name twice exactly when the words of the markers are distinct in lowercase and none of them are the
word of the imported function (`nodup_names_ofDispatch_iff`).
-/

namespace ApiContract.Client

open Code

/-! ### Names and words -/

lemma builderName_eq_iff (a : Endpoint) (name : String) :
    a.builderName = "build_" ++ moduleName name ↔
      Text.lowerWords a.marker = Text.lowerWords name := by
  rw [Endpoint.builderName, ← Text.snake_eq_snake_iff]
  exact String.append_right_inj _

lemma builderName_eq_request_iff (e : Endpoint) :
    e.builderName = "build_request" ↔ Text.lowerWords e.marker = ["request".toList] := by
  have hname : "build_request" = "build_" ++ moduleName "request" := by decide +kernel
  have hwords : Text.lowerWords "request" = ["request".toList] := by decide +kernel
  rw [hname, ← hwords, builderName_eq_iff]

/-- The names of the dispatch module that are no builders are distinct, and only that of the
imported function begins like a builder. -/
lemma dispatchNames_spec : dispatchNames.Nodup ∧
    ∀ i ∈ dispatchNames, i.name.toList.take 6 = "build_".toList → i = .plain "build_request" := by
  decide +kernel

/-- Builders have distinct names when the words of their markers differ. -/
lemma nodup_builderNames_iff (es : List Endpoint) :
    (es.map fun e => Identifier.plain e.builderName).Nodup ↔
      es.Pairwise fun a b => Text.lowerWords a.marker ≠ Text.lowerWords b.marker := by
  have heq : ∀ a b : Endpoint, Identifier.plain a.builderName = Identifier.plain b.builderName ↔
      Text.lowerWords a.marker = Text.lowerWords b.marker := by
    intro a b
    rw [← builderName_eq_iff a b.marker]
    exact ⟨fun h => congrArg Identifier.name h, fun h => congrArg Identifier.plain h⟩
  rw [List.Nodup, List.pairwise_map]
  constructor
  · exact fun h => h.imp fun hne hwords => hne ((heq _ _).mpr hwords)
  · exact fun h => h.imp fun hne hname => hne ((heq _ _).mp hname)

/-- Among the other names of the module, a builder can only meet that of the imported function. -/
lemma nodup_dispatchNames_append_iff (es : List Endpoint) :
    (dispatchNames ++ es.map fun e => Identifier.plain e.builderName).Nodup ↔
      (es.map fun e => Identifier.plain e.builderName).Nodup ∧
        ∀ e ∈ es, e.builderName ≠ "build_request" := by
  obtain ⟨hnodup, hbuild⟩ := dispatchNames_spec
  rw [List.nodup_append]
  constructor
  · rintro ⟨_, hnames, hapart⟩
    refine ⟨hnames, fun e he hname => ?_⟩
    refine hapart (.plain "build_request") (by decide +kernel) _ (List.mem_map_of_mem he) ?_
    rw [hname]
  · rintro ⟨hnames, hrequest⟩
    refine ⟨hnodup, hnames, fun i hi j hj hij => ?_⟩
    obtain ⟨e, he, rfl⟩ := List.mem_map.mp hj
    have hplain : i = .plain "build_request" := by
      refine hbuild i hi ?_
      rw [hij, Identifier.plain, Endpoint.builderName, String.toList_append]
      exact List.take_left' (by decide +kernel)
    exact hrequest e he (congrArg Identifier.name (hij.symm.trans hplain))

/-- A row of a table denotes the builder of the endpoint that it was made for, when no name is
defined twice. -/
lemma find?_builders_of_nodup {all : List Endpoint} {m : Module}
    (h : Module.ofDispatch all = .ok m) (hnodup : m.names.Nodup) {e : Endpoint} (he : e ∈ all) :
    m.builders.find? (.plain e.builderName) = some (requestPlan e) := by
  obtain ⟨hbuilders, hnames, _⟩ := ofDispatch_spec h
  have hkeys : m.builders.keys = all.map fun e => .plain e.builderName := by
    rw [hbuilders, Table.keys, List.map_map]
    rfl
  refine Table.find?_of_mem ?_ ?_
  · rw [hkeys]
    exact (hnames.nodup_iff.mp hnodup).of_append_right
  · rw [hbuilders]
    exact List.mem_map.mpr ⟨e, he, rfl⟩

/-- Every row of a table denotes the builder of its own endpoint, when no name is defined twice. -/
lemma forall₂_builder_of_nodup {all own : List Endpoint} {m : Module} {rows : List Row}
    (h : Module.ofDispatch all = .ok m) (hnodup : m.names.Nodup) (hown : own ⊆ all)
    (hrows : List.Forall₂ IsRowOf own rows) :
    List.Forall₂ (fun e row => row.key = e.key.text ∧
      m.builders.find? row.build = some (requestPlan e)) own rows := by
  induction hrows with
  | nil => exact .nil
  | cons hrow _ ih =>
    refine .cons ⟨hrow.key, ?_⟩ (ih fun e he => hown (List.mem_cons_of_mem _ he))
    rw [hrow.build]
    exact find?_builders_of_nodup h hnodup (hown List.mem_cons_self)

/-- The dispatch module has no name twice exactly when the words of the markers are distinct in
lowercase and none of them are those of the imported function; every row then denotes the builder of
its own endpoint. -/
theorem nodup_names_ofDispatch_iff {all : List Endpoint} {m : Module}
    (h : Module.ofDispatch all = .ok m) :
    (m.names.Nodup ↔
      (all.Pairwise fun a b => Text.lowerWords a.marker ≠ Text.lowerWords b.marker) ∧
        ∀ e ∈ all, Text.lowerWords e.marker ≠ ["request".toList]) ∧
    (m.names.Nodup → ∃ rows streamRows,
      m.tables = [(.plain "DISPATCH", rows), (.plain "STREAM_DISPATCH", streamRows)] ∧
      List.Forall₂ (fun e row => row.key = e.key.text ∧
        m.builders.find? row.build = some (requestPlan e)) (Endpoint.standard all) rows ∧
      List.Forall₂ (fun e row => row.key = e.key.text ∧
        m.builders.find? row.build = some (requestPlan e)) (Endpoint.streams all) streamRows) := by
  obtain ⟨_, hnames, _, rows, streamRows, htables, hrows, hstreamRows⟩ := ofDispatch_spec h
  constructor
  · rw [hnames.nodup_iff, nodup_dispatchNames_append_iff, nodup_builderNames_iff]
    simp only [Ne, builderName_eq_request_iff]
  · intro hnodup
    exact ⟨rows, streamRows, htables,
      forall₂_builder_of_nodup h hnodup (List.filter_subset_self _) hrows,
      forall₂_builder_of_nodup h hnodup (List.filter_subset_self _) hstreamRows⟩

/-- A group with an endpoint that answers once and a stream, whose markers have distinct words. -/
def listAndWatch : Groups :=
  [("items", [.new "listItems" .get "/items",
    { Operation.new "watchItems" .get "/items" with kind := .stream }])]

theorem nodup_names_of_listAndWatch : ∃ es m, Endpoint.ofGroups listAndWatch = .ok es ∧
    Module.ofDispatch es = .ok m ∧ m.names.Nodup := by
  obtain ⟨m, hm⟩ : ∃ m, (Endpoint.ofGroups listAndWatch >>= Module.ofDispatch) = .ok m :=
    exists_eq_ok (by decide +kernel)
  obtain ⟨es, hes, hdispatch⟩ := bind_eq_ok_iff.mp hm
  have hwords : (es.Pairwise fun a b => Text.lowerWords a.marker ≠ Text.lowerWords b.marker) ∧
      ∀ e ∈ es, Text.lowerWords e.marker ≠ ["request".toList] := by
    cases hes
    decide +kernel
  exact ⟨es, m, hes, hdispatch, (nodup_names_ofDispatch_iff hdispatch).1.mpr hwords⟩

/-- A group of two operations whose markers `Abc` and `ABC` have one word in lowercase. -/
def clashingGroups : Groups :=
  [("items", [.new "abc" .get "/1", .new "a_b_c" .get "/2", .new "watch" .get "/3"])]

/-- Validation accepts the two markers, and the dispatch module has `build_abc` twice. -/
theorem clashingGroups_accepted : ∃ es m,
    Endpoint.ofGroups clashingGroups = .ok es ∧
    (validate clashingGroups es : Traced Unit Unit).result = .ok () ∧
    Module.ofDispatch es = .ok m ∧ ¬ m.names.Nodup := by
  refine ⟨_, _, rfl, rfl, rfl, ?_⟩
  decide +kernel

end ApiContract.Client
