import ApiContract.Proofs.Client.Collision
import ApiContract.Proofs.Client.Modules

/-!
# Dispatch tables and registries

The registries and the dispatch tables are made by separate generators from one list of endpoints.
Here they are put together again: both kinds of endpoints have the same keys in the registry, in its
implementations and in the dispatch table, in order of declaration, and a look-up of a key finds the
row of the endpoint that it was made from (`tables_agree_with_registries`). The latter rests on
validation, which leaves no key twice in a table and no marker twice.
-/

namespace ApiContract.Client

open Code

/-! ### Distinct names -/

lemma map_marker_sublist_typeNames (es : List Endpoint) :
    (es.map Endpoint.marker).Sublist (es.flatMap Endpoint.typeNames) := by
  induction es with
  | nil => exact List.Sublist.slnil
  | cons e rest ih =>
    have hmarker : [e.marker].Sublist e.typeNames := by
      unfold Endpoint.typeNames
      split
      · exact List.Sublist.refl _
      · exact List.Sublist.cons_cons _ (List.nil_sublist _)
    rw [List.map_cons, List.flatMap_cons, ← List.singleton_append]
    exact hmarker.append ih

/-- Accepted endpoints have distinct markers. -/
lemma nodup_markers_of_distinct {groups : Groups} {es own : List Endpoint}
    (h : DistinctNames groups es) (hown : own.Sublist es) : (own.map Endpoint.marker).Nodup :=
  h.types.of_append_right.sublist ((hown.map _).trans (map_marker_sublist_typeNames es))

lemma nodup_keys_of_distinct {groups : Groups} {es : List Endpoint} (h : DistinctNames groups es) :
    (keyTexts (Endpoint.standard es)).Nodup ∧ (keyTexts (Endpoint.streams es)).Nodup :=
  ⟨h.keys, h.streamKeys⟩

/-- The markers of implementations, as they stand in the code, are those of the endpoints. -/
lemma map_marker_text {groups : Groups} {all : List Endpoint}
    (hall : Endpoint.ofGroups groups = .ok all) {es : List Endpoint} (hes : es.Sublist all)
    {isStream : Bool} {is : List Implementation}
    (h : List.Forall₂ (IsImplementationOf isStream) es is) :
    is.map (fun i => i.marker.text) = es.map Endpoint.marker :=
  map_eq_map_of_forall₂ h fun _ he _ hi => text_of_parse_marker hall (hes.subset he) hi.marker

/-! ### One kind of endpoints -/

/-- What is found for the endpoint `e` at place `n` of its kind: a look-up of its key answers with
the row at that place and no earlier one has the key; the schema of the row is that of the one
implementation for the marker of `e`, and the row names the builder of `e`. -/
def IsFoundAt (registry dispatch : Module) (lookup : Identifier) (rows : List Row) (isStream : Bool)
    (n : Nat) (e : Endpoint) : Prop :=
  ∃ row i, rows[n]? = some row ∧ registry.implementations[n]? = some i ∧
    dispatch.answer lookup e.key.text = some row ∧
    rows.findIdx? (fun row => row.key = e.key.text) = some n ∧
    i.isStream = isStream ∧ i.marker.text = e.marker ∧
    registry.implementationOf i.marker = some i ∧
    row.schema = i.schema ∧ row.build = .plain e.builderName

/-- A registry and a dispatch table have the same keys in order, and every endpoint is found at its
place. -/
structure Agrees (registry dispatch : Module) (keyList lookup : Identifier) (isStream : Bool)
    (es : List Endpoint) (rows : List Row) : Prop where
  listed : registry.keyLists.find? keyList = some (keyTexts es)
  implemented : registry.implementations.map Implementation.key = keyTexts es
  dispatched : rows.map Row.key = keyTexts es
  found : ∀ n e, es[n]? = some e → IsFoundAt registry dispatch lookup rows isStream n e

/-- Every endpoint is found at its place when keys and markers are distinct. -/
lemma isFoundAt_of_nodup {registry dispatch : Module} {lookup : Identifier} {isStream : Bool}
    {es : List Endpoint} {rows : List Row} (hrows : List.Forall₂ IsRowOf es rows)
    (himpls : List.Forall₂ (IsImplementationOf isStream) es registry.implementations)
    (hanswer : ∀ key, dispatch.answer lookup key = rows.find? fun row => row.key = key)
    (hkeys : (keyTexts es).Nodup) (hnodup : (es.map Endpoint.marker).Nodup)
    (hmarkers : registry.implementations.map (fun i => i.marker.text) = es.map Endpoint.marker)
    {n : Nat} {e : Endpoint} (he : es[n]? = some e) :
    IsFoundAt registry dispatch lookup rows isStream n e := by
  obtain ⟨row, hrow, hrowOf⟩ := exists_getElem?_of_forall₂ hrows he
  obtain ⟨i, hi, himpl⟩ := exists_getElem?_of_forall₂ himpls he
  have hrowKeys : (rows.map Row.key).Nodup := by
    rw [map_eq_map_of_forall₂ hrows fun _ _ _ h => h.key]
    exact hkeys
  have himplMarkers : (registry.implementations.map Implementation.marker).Nodup := by
    refine List.Nodup.of_map Identifier.text ?_
    rw [List.map_map]
    exact hmarkers ▸ hnodup
  have htext : i.marker.text = e.marker := by
    have hplace := congrArg (fun l => l[n]?) hmarkers
    simpa [hi, he] using hplace
  obtain ⟨hfind, hidx⟩ := find?_key_of_nodup Row.key hrowKeys hrow
  obtain ⟨howner, _⟩ := find?_key_of_nodup Implementation.marker himplMarkers hi
  rw [hrowOf.key] at hfind hidx
  -- Both were read from one text.
  have hschema : row.schema = i.schema := Except.ok.inj (hrowOf.schema.symm.trans himpl.schema)
  exact ⟨row, i, hrow, hi, (hanswer _).trans hfind, hidx, himpl.isStream, htext, howner, hschema,
    hrowOf.build⟩

/-- A registry and a dispatch table of the same endpoints agree when keys and markers are
distinct. -/
lemma agrees_of_nodup {registry dispatch : Module} {keyList lookup : Identifier} {isStream : Bool}
    {es : List Endpoint} {rows : List Row}
    (hkeyList : registry.keyLists = [(keyList, keyTexts es)])
    (hrows : List.Forall₂ IsRowOf es rows)
    (himpls : List.Forall₂ (IsImplementationOf isStream) es registry.implementations)
    (hanswer : ∀ key, dispatch.answer lookup key = rows.find? fun row => row.key = key)
    (hkeys : (keyTexts es).Nodup) (hnodup : (es.map Endpoint.marker).Nodup)
    (hmarkers : registry.implementations.map (fun i => i.marker.text) = es.map Endpoint.marker) :
    Agrees registry dispatch keyList lookup isStream es rows := by
  constructor
  · rw [hkeyList, Table.find?_cons, if_pos rfl]
  · exact map_eq_map_of_forall₂ himpls fun _ _ _ h => h.key
  · exact map_eq_map_of_forall₂ hrows fun _ _ _ h => h.key
  · intro n e he
    exact isFoundAt_of_nodup hrows himpls hanswer hkeys hnodup hmarkers he

/-- For groups that are accepted, the registries and the dispatch tables have the same keys in order
of declaration, every endpoint is in one of the two kinds, and a look-up of the key of an endpoint
finds the row made from it, with the schema of its marker and the name of its builder. -/
theorem tables_agree_with_registries {η : Type} {groups : Groups} {es : List Endpoint}
    {errorsModule : String} {registry streamRegistry dispatch : Module}
    (hes : Endpoint.ofGroups groups = .ok es)
    (hvalid : (validate groups es : Traced η Unit).result = .ok ())
    (hregistry : Module.ofEndpoints errorsModule es = .ok registry)
    (hstreams : Module.ofStreams es = .ok streamRegistry)
    (hdispatch : Module.ofDispatch es = .ok dispatch) :
    ∃ rows streamRows,
      dispatch.tables = [(.plain "DISPATCH", rows), (.plain "STREAM_DISPATCH", streamRows)] ∧
      Agrees registry dispatch (.plain "ENDPOINT_KEYS") (.plain "lookup") false
        (Endpoint.standard es) rows ∧
      Agrees streamRegistry dispatch (.plain "STREAM_ENDPOINT_KEYS") (.plain "lookup_stream") true
        (Endpoint.streams es) streamRows ∧
      (Endpoint.streams es ++ Endpoint.standard es).Perm es ∧
      ∀ e ∈ es, e ∈ Endpoint.streams es ↔ e ∉ Endpoint.standard es := by
  obtain ⟨hkeyList, himpls⟩ := ofEndpoints_spec hregistry
  obtain ⟨hstreamKeyList, hstreamImpls⟩ := ofStreams_spec hstreams
  obtain ⟨_, _, hlookups, rows, streamRows, htables, hrows, hstreamRows⟩ :=
    ofDispatch_spec hdispatch
  have hdistinct := distinct_of_validate hvalid
  obtain ⟨hkeys, hstreamKeys⟩ := nodup_keys_of_distinct hdistinct
  have hstandard : (Endpoint.standard es).Sublist es := List.filter_sublist
  have hstream : (Endpoint.streams es).Sublist es := List.filter_sublist
  have hanswer : ∀ key, dispatch.answer (.plain "lookup") key =
      rows.find? fun row => row.key = key := by
    intro key
    rw [Module.answer, hlookups, htables]
    rfl
  have hstreamAnswer : ∀ key, dispatch.answer (.plain "lookup_stream") key =
      streamRows.find? fun row => row.key = key := by
    intro key
    rw [Module.answer, hlookups, htables]
    rfl
  have hagrees : Agrees registry dispatch (.plain "ENDPOINT_KEYS") (.plain "lookup") false
      (Endpoint.standard es) rows :=
    agrees_of_nodup hkeyList hrows himpls hanswer hkeys
      (nodup_markers_of_distinct hdistinct hstandard) (map_marker_text hes hstandard himpls)
  have hstreamAgrees : Agrees streamRegistry dispatch (.plain "STREAM_ENDPOINT_KEYS")
      (.plain "lookup_stream") true (Endpoint.streams es) streamRows :=
    agrees_of_nodup hstreamKeyList hstreamRows hstreamImpls hstreamAnswer hstreamKeys
      (nodup_markers_of_distinct hdistinct hstream) (map_marker_text hes hstream hstreamImpls)
  refine ⟨rows, streamRows, htables, hagrees, hstreamAgrees, ?_, ?_⟩
  · exact List.filter_append_perm Endpoint.isStream es
  · intro e he
    simp [Endpoint.streams, Endpoint.standard, he]

/-- A group with the variants of an operation, a second operation and a stream of the same key as
it. -/
def mixedGroups : Groups :=
  [("items", [
    { Operation.new "importItems" .post "/items" with
      schemas := [("default", "{}"), ("text/csv", "{}")] },
    .new "listItems" .get "/items",
    { Operation.new "watchItems" .get "/items" with kind := .stream }])]

/-- The generated modules that take part in the dispatch of `mixedGroups`. -/
def mixedModules : Except Error (List Endpoint × Module × Module × Module) := do
  let es ← Endpoint.ofGroups mixedGroups
  (validate mixedGroups es : Traced Unit Unit).result
  let registry ← Module.ofEndpoints "crate::errors" es
  let streamRegistry ← Module.ofStreams es
  let dispatch ← Module.ofDispatch es
  return (es, registry, streamRegistry, dispatch)

theorem tables_of_mixedGroups : ∃ es registry streamRegistry dispatch rows streamRows,
    mixedModules = .ok (es, registry, streamRegistry, dispatch) ∧
    Agrees registry dispatch (.plain "ENDPOINT_KEYS") (.plain "lookup") false
      (Endpoint.standard es) rows ∧
    Agrees streamRegistry dispatch (.plain "STREAM_ENDPOINT_KEYS") (.plain "lookup_stream") true
      (Endpoint.streams es) streamRows ∧
    keyTexts (Endpoint.standard es) = ["POST /items", "text/csv POST /items", "GET /items"] ∧
    keyTexts (Endpoint.streams es) = ["GET /items"] := by
  obtain ⟨_, hmodules⟩ : ∃ ms, mixedModules = .ok ms := exists_eq_ok (by decide +kernel)
  have hparts := hmodules
  unfold mixedModules at hparts
  obtain ⟨es, hes, hparts⟩ := bind_eq_ok_iff.mp hparts
  obtain ⟨_, hvalid, hparts⟩ := bind_eq_ok_iff.mp hparts
  obtain ⟨registry, hregistry, hparts⟩ := bind_eq_ok_iff.mp hparts
  obtain ⟨streamRegistry, hstreams, hparts⟩ := bind_eq_ok_iff.mp hparts
  obtain ⟨dispatch, hdispatch, hparts⟩ := bind_eq_ok_iff.mp hparts
  cases hparts
  obtain ⟨rows, streamRows, _, hagrees, hstreamAgrees, _, _⟩ :=
    tables_agree_with_registries hes hvalid hregistry hstreams hdispatch
  refine ⟨es, registry, streamRegistry, dispatch, rows, streamRows, hmodules, hagrees,
    hstreamAgrees, ?_⟩
  cases hes
  decide +kernel

end ApiContract.Client
