import ApiContract.Client.Endpoint
import ApiContract.Proofs.Code.Identifier
import ApiContract.Proofs.Results
import ApiContract.Proofs.Text.Casing

/-!
# Endpoints and their names

Where the endpoints of groups come from, and what their names are made of. Markers and names of
builders are casings of names, so nothing in them is passed over when they are read as identifiers:
the identifier of such a name is the name itself.
-/

namespace ApiContract.Client

open Code

/-! ### Endpoints of groups -/

namespace Endpoint

/-- An endpoint of an operation is that of one of its variants, or of the operation itself. -/
lemma exists_of_mem_ofOperation {group : String} {op : Operation} {es : List Endpoint}
    (h : ofOperation group op = .ok es) {e : Endpoint} (he : e ∈ es) :
    ∃ placement, Placement.ofOperation op = .ok placement ∧
      ((op.hasVariants = true ∧ ∃ tag ∈ op.schemas.keys, e = ofVariant group op placement tag) ∨
        (op.hasVariants = false ∧ e = ofSingle group op placement)) := by
  unfold ofOperation at h
  obtain ⟨placement, hplacement, h⟩ := bind_eq_ok_iff.mp h
  refine ⟨placement, hplacement, ?_⟩
  cases hvariants : op.hasVariants with
  | true =>
    rw [hvariants, if_pos rfl] at h
    cases h
    obtain ⟨tag, htag, rfl⟩ := List.mem_map.mp he
    exact Or.inl ⟨rfl, tag, htag, rfl⟩
  | false =>
    rw [hvariants, if_neg Bool.false_ne_true] at h
    cases h
    exact Or.inr ⟨rfl, List.mem_singleton.mp he⟩

/-- Every endpoint of groups is one of an operation of a group. -/
theorem exists_of_mem_ofGroups {groups : Groups} {es : List Endpoint}
    (h : ofGroups groups = .ok es) {e : Endpoint} (he : e ∈ es) :
    ∃ g ∈ groups, ∃ op ∈ g.2, ∃ own, ofOperation g.1 op = .ok own ∧ e ∈ own := by
  unfold ofGroups at h
  obtain ⟨all, hall, h⟩ := bind_eq_ok_iff.mp h
  cases h
  obtain ⟨ofGroup, hgroup, he⟩ := List.mem_flatten.mp he
  obtain ⟨owns, howns, rfl⟩ := List.mem_map.mp hgroup
  obtain ⟨own, hown, he⟩ := List.mem_flatten.mp he
  obtain ⟨g, hg, hops⟩ := exists_of_mem_mapM hall howns
  obtain ⟨op, hop, hownOf⟩ := exists_of_mem_mapM hops hown
  exact ⟨g, hg, op, hop, own, hownOf, he⟩

/-- The endpoints of a group are those of its operations in order, and part of all endpoints. -/
theorem exists_ofGroup {groups : Groups} {es : List Endpoint} (h : ofGroups groups = .ok es)
    {g : String × List Operation} (hg : g ∈ groups) :
    ∃ owns, g.2.mapM (ofOperation g.1) = .ok owns ∧ owns.flatten.Sublist es := by
  unfold ofGroups at h
  obtain ⟨all, hall, h⟩ := bind_eq_ok_iff.mp h
  cases h
  obtain ⟨owns, hmem, howns⟩ := exists_of_mapM_of_mem hall hg
  exact ⟨owns, howns, List.sublist_flatten_of_mem (List.mem_map_of_mem hmem)⟩

/-- The inputs of every operation of planned groups are placed. -/
theorem exists_placement {groups : Groups} {es : List Endpoint} (h : ofGroups groups = .ok es)
    {g : String × List Operation} (hg : g ∈ groups) {op : Operation} (hop : op ∈ g.2) :
    ∃ placement, Placement.ofOperation op = .ok placement := by
  obtain ⟨owns, howns, _⟩ := exists_ofGroup h hg
  obtain ⟨own, _, hown⟩ := exists_of_mapM_of_mem howns hop
  unfold ofOperation at hown
  obtain ⟨placement, hplacement, _⟩ := bind_eq_ok_iff.mp hown
  exact ⟨placement, hplacement⟩

lemma exists_marker_eq {groups : Groups} {es : List Endpoint} (h : ofGroups groups = .ok es)
    {e : Endpoint} (he : e ∈ es) :
    ∃ operation variant, e.marker = markerName operation variant := by
  obtain ⟨g, _, op, _, own, hown, hmem⟩ := exists_of_mem_ofGroups h he
  obtain ⟨placement, _, ⟨_, tag, _, rfl⟩ | ⟨_, rfl⟩⟩ := exists_of_mem_ofOperation hown hmem
  · exact ⟨op.name, if tag == defaultVariant then none else some tag, rfl⟩
  · exact ⟨op.name, none, rfl⟩

end Endpoint

/-! ### Names as identifiers -/

/-- What stands between words is what is passed over between tokens, and the underscore. -/
lemma isInner_of_not_isSeparator {c : Char} (h : ¬ Text.IsSeparator c) : IsInner c := by
  refine ⟨?_, ?_, ?_⟩
  · rw [isGap, Bool.or_eq_false_iff, Bool.or_eq_false_iff]
    refine ⟨⟨?_, ?_⟩, ?_⟩
    · exact Bool.eq_false_iff.mpr fun hc => h (Text.isSeparator_of_isBlank hc)
    · exact beq_eq_false_iff_ne.mpr fun hc => h (hc ▸ by decide)
    · exact beq_eq_false_iff_ne.mpr fun hc => h (hc ▸ by decide)
  · exact fun hc => h (hc ▸ by decide)
  · exact fun hc => h (hc ▸ by decide)

lemma not_isSeparator_of_mem_markerName {operation : String} {variant : Option String} :
    ∀ c ∈ (markerName operation variant).toList, ¬ Text.IsSeparator c := by
  intro c hc
  cases variant with
  | none => exact Text.not_isSeparator_of_mem_camel c hc
  | some tag =>
    rw [markerName, String.toList_append, List.mem_append] at hc
    rcases hc with hc | hc
    · exact Text.not_isSeparator_of_mem_camel c hc
    · exact Text.not_isSeparator_of_mem_camel c hc

lemma isInner_of_mem_markerName {operation : String} {variant : Option String} :
    ∀ c ∈ (markerName operation variant).toList, IsInner c := fun c hc =>
  isInner_of_not_isSeparator (not_isSeparator_of_mem_markerName c hc)

/-- A marker does not start with a small letter of ASCII. -/
lemma not_small_of_head?_markerName {operation : String} {variant : Option String} {c : Char}
    (h : (markerName operation variant).toList.head? = some c) : c.toNat ∉ Text.smallLetters := by
  cases variant with
  | none => exact Text.not_small_of_head?_camel h
  | some tag =>
    rw [markerName, String.toList_append, List.head?_append, Option.or_eq_some_iff] at h
    rcases h with h | ⟨_, h⟩
    · exact Text.not_small_of_head?_camel h
    · exact Text.not_small_of_head?_camel h

/-- A name of words and underscores is an identifier as it stands, and not a raw one. -/
lemma eq_plain_of_parse {s : String} {i : Identifier}
    (hs : ∀ c ∈ s.toList, c = '_' ∨ ¬ Text.IsSeparator c) (h : Identifier.parse s = .ok i) :
    i = .plain s := by
  have hinner : ∀ c ∈ s.toList, IsInner c := by
    intro c hc
    rcases hs c hc with rfl | hsep
    · decide
    · exact isInner_of_not_isSeparator hsep
  have htext := Identifier.text_of_parse_eq_ok hinner h
  obtain ⟨isRaw, name⟩ := i
  cases isRaw with
  | false =>
    rw [← htext]
    rfl
  | true =>
    have hmark : '#' ∈ s.toList := by
      rw [← htext]
      simp [Identifier.text]
    rcases hs '#' hmark with hmark | hmark
    · exact absurd hmark (by decide)
    · exact absurd (by decide) hmark

/-- The identifier of a module is its name. -/
lemma eq_plain_of_parse_moduleName {name : String} {i : Identifier}
    (h : Identifier.parse (moduleName name) = .ok i) : i = .plain (moduleName name) :=
  eq_plain_of_parse (fun _ => Text.not_isSeparator_of_mem_snake) h

/-- The identifier of a constant is its name. -/
lemma eq_plain_of_parse_constName {name : String} {i : Identifier}
    (h : Identifier.parse (constName name) = .ok i) : i = .plain (constName name) :=
  eq_plain_of_parse (fun _ => Text.not_isSeparator_of_mem_shouty) h

/-- The identifier of a builder is its name. -/
theorem eq_plain_of_parse_builderName {e : Endpoint} {i : Identifier}
    (h : Identifier.parse e.builderName = .ok i) : i = .plain e.builderName := by
  refine eq_plain_of_parse (fun c hc => ?_) h
  rw [Endpoint.builderName, String.toList_append, List.mem_append] at hc
  rcases hc with hc | hc
  · have hall : ("build_".toList.all fun c => decide (c = '_' ∨ ¬ Text.IsSeparator c)) = true := by
      decide
    exact of_decide_eq_true (List.all_eq_true.mp hall c hc)
  · exact Text.not_isSeparator_of_mem_snake hc

/-- The identifier of a marker is its name. -/
theorem text_of_parse_marker {groups : Groups} {es : List Endpoint}
    (hes : Endpoint.ofGroups groups = .ok es) {e : Endpoint} (he : e ∈ es) {i : Identifier}
    (h : Identifier.parse e.marker = .ok i) : i.text = e.marker := by
  obtain ⟨operation, variant, hmarker⟩ := Endpoint.exists_marker_eq hes he
  rw [hmarker] at h ⊢
  exact Identifier.text_of_parse_eq_ok isInner_of_mem_markerName h

end ApiContract.Client
