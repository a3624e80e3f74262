import ApiContract.Proofs.Client.FirstCollision

/-!
# Keys of endpoints

The text of a key joins the tag of a variant, the method and the path with spaces, and nothing in
these is escaped. It is read from its end: the last word is the path when that has no space, and the
word before it is the method, so the tag is what is left and can be any text
(`EndpointKey.text_eq_iff`). Variants of one operation need no condition on the path, which is the
same in all their keys (`nodup_keyTexts_of_ofOperation`). So validation, which compares texts, does
not report a collision of keys of different variants, methods or paths unless one of the paths has a
space (`keys_tell_endpoints_apart`).
-/

namespace ApiContract.Client

/-! ### Texts of keys -/

lemma space_not_mem_name (m : Method) : ' ' ∉ m.name.toList := by
  cases m <;> decide

namespace EndpointKey

/-- What stands before the path in the text of a key. -/
def head (k : EndpointKey) : String :=
  match k.variant with
  | some tag => tag ++ " " ++ k.method.name
  | none => k.method.name

lemma text_eq_append (k : EndpointKey) : k.text = k.head ++ (" " ++ k.path) := by
  unfold text head
  cases k.variant with
  | some tag => exact String.append_assoc
  | none => rw [String.empty_append, String.append_assoc]

/-- The last word of a head is the method, and a head of one word has no tag. -/
lemma eq_of_head_eq {k k' : EndpointKey} (h : k.head = k'.head) :
    k.variant = k'.variant ∧ k.method = k'.method := by
  obtain ⟨variant, method, _⟩ := k
  obtain ⟨variant', method', _⟩ := k'
  have hmethod := space_not_mem_name method
  have hmethod' := space_not_mem_name method'
  have hchars := congrArg String.toList h
  cases variant with
  | some tag =>
    cases variant' with
    | some tag' =>
      simp only [head, String.toList_append, List.append_assoc] at hchars
      obtain ⟨htag, hname⟩ := append_cons_inj_of_not_mem_right hmethod hmethod' hchars
      exact ⟨congrArg some (String.toList_inj.mp htag),
        Method.name_injective (String.toList_inj.mp hname)⟩
    | none =>
      simp only [head, String.toList_append] at hchars
      exact absurd (hchars ▸ by simp) hmethod'
  | none =>
    cases variant' with
    | some tag' =>
      simp only [head, String.toList_append] at hchars
      exact absurd (hchars ▸ by simp) hmethod
    | none => exact ⟨rfl, Method.name_injective h⟩

/-- Different keys of one path have different texts, whatever the path is. -/
lemma eq_of_text_eq_of_path_eq {k k' : EndpointKey} (hpath : k.path = k'.path)
    (h : k.text = k'.text) : k = k' := by
  rw [text_eq_append, text_eq_append, hpath, String.append_left_inj] at h
  obtain ⟨hvariant, hmethod⟩ := eq_of_head_eq h
  cases k
  cases k'
  cases hvariant
  cases hmethod
  cases hpath
  rfl

/-- Different keys have different texts when their paths have no space. -/
theorem text_eq_iff {k k' : EndpointKey} (hk : ' ' ∉ k.path.toList) (hk' : ' ' ∉ k'.path.toList) :
    k.text = k'.text ↔ k = k' := by
  refine ⟨fun h => ?_, congrArg text⟩
  have hchars := congrArg String.toList h
  simp only [text_eq_append, String.toList_append] at hchars
  obtain ⟨_, hpath⟩ := append_cons_inj_of_not_mem_right hk hk' hchars
  exact eq_of_text_eq_of_path_eq (String.toList_inj.mp hpath) h

-- With a space in a path, the tag of one key can pass for the method of another.
example : (EndpointKey.mk (some "GET") .post "/items").text =
    (EndpointKey.mk none .get "POST /items").text := by decide

/-- Several variants of one operation have different keys. -/
lemma ofVariant_injective {op : Operation} (hop : op.hasVariants = true) :
    Function.Injective (ofVariant op) := by
  intro tag tag' h
  have hvariant := congrArg variant h
  simp only [ofVariant, hop, Bool.true_and] at hvariant
  by_cases htag : tag = defaultVariant
  · by_cases htag' : tag' = defaultVariant
    · exact htag.trans htag'.symm
    · simp [htag, htag'] at hvariant
  · by_cases htag' : tag' = defaultVariant
    · simp [htag, htag'] at hvariant
    · simpa [htag, htag'] using hvariant

end EndpointKey

/-! ### Endpoints of an operation -/

/-- An operation with several variants has an endpoint for each of its tags, any other operation has
one of the default tag. -/
lemma map_key_of_ofOperation {group : String} {op : Operation} {own : List Endpoint}
    (hown : Endpoint.ofOperation group op = .ok own) :
    own.map Endpoint.key =
      (if op.hasVariants then op.schemas.keys else [defaultVariant]).map
        (EndpointKey.ofVariant op) := by
  unfold Endpoint.ofOperation at hown
  obtain ⟨placement, _, hown⟩ := bind_eq_ok_iff.mp hown
  cases hop : op.hasVariants with
  | true =>
    rw [hop, if_pos rfl] at hown
    cases hown
    rw [if_pos rfl, List.map_map]
    rfl
  | false =>
    rw [hop, if_neg Bool.false_ne_true] at hown
    cases hown
    rfl

/-- The endpoints of an operation have different keys, whatever its path is. -/
theorem nodup_keyTexts_of_ofOperation {group : String} {op : Operation} {own : List Endpoint}
    (hschemas : op.schemas.keys.Nodup) (hown : Endpoint.ofOperation group op = .ok own) :
    (keyTexts own).Nodup := by
  have htexts : keyTexts own = (own.map Endpoint.key).map EndpointKey.text := by
    rw [List.map_map]
    rfl
  rw [htexts, map_key_of_ofOperation hown, List.map_map]
  cases hop : op.hasVariants with
  | true =>
    refine hschemas.map fun tag tag' h => ?_
    exact EndpointKey.ofVariant_injective hop (EndpointKey.eq_of_text_eq_of_path_eq rfl h)
  | false => exact List.nodup_singleton _

/-! ### Reported collisions -/

/-- The failures to place inputs. -/
inductive IsUnknownSource : Error → Prop where
  | intro (field operation source : String) :
      IsUnknownSource (.unknownSource field operation source)

lemma failsOnly_placement (op : Operation) :
    FailsOnly IsUnknownSource (Placement.ofOperation op) := by
  unfold Placement.ofOperation
  induction op.inputs with
  | nil => exact failsOnly_ok _
  | cons e rest ih =>
    unfold Placement.ofInputs
    split
    · exact failsOnly_error (.intro _ _ _)
    · exact ih.bind fun _ _ => failsOnly_ok _

lemma failsOnly_reportPlaceholders {η : Type} (groups : Groups) :
    FailsOnly IsUnknownSource (reportPlaceholders groups : Traced η Unit).result := by
  unfold reportPlaceholders
  simp only [Traced.result_forM]
  refine failsOnly_forM fun g _ => failsOnly_forM fun op _ => ?_
  rw [Traced.result_bind, Traced.result_lift]
  exact (failsOnly_placement op).bind fun _ _ => failsOnly_ok _

/-- A collision that validation reports is one that the check of names has found, also for endpoints
that are not those of the groups. -/
lemma checkNames_of_validate_eq_collision {η : Type} {groups : Groups} {es : List Endpoint}
    {kind : NameKind} {name first second : String}
    (h : (validate groups es : Traced η Unit).result =
      .error (.collision kind name first second)) :
    checkNames groups es = .error (.collision kind name first second) := by
  unfold validate at h
  rw [Traced.result_bind, Traced.result_lift] at h
  refine (bind_eq_error_iff_of_ne fun _ _ hreports => ?_).mp h
  cases failsOnly_reportPlaceholders groups _ hreports

/-- The register of the keys of endpoints of one kind. -/
def keyRegister (isStream : Bool) : Register := if isStream then .streamKeys else .keys

lemma exists_eq_keyRegister {r : Register} (h : r.kind = .endpointKey) :
    ∃ isStream, r = keyRegister isStream := by
  cases r with
  | keys => exact ⟨false, rfl⟩
  | streamKeys => exact ⟨true, rfl⟩
  | modules | types | schemas => cases h

/-- The keys in a register are those of the endpoints of its kind, in order of declaration. -/
lemma owners_keyRegister (isStream : Bool) (groups : Groups) (es : List Endpoint) :
    Naming.owners (keyRegister isStream) (namings groups es) =
      (es.filter fun e => e.isStream = isStream).map fun e => (e.key.text, e.origin) := by
  have hgroups : Naming.owners (keyRegister isStream) (groups.keys.map groupNaming) = [] := by
    cases isStream <;> simp [Naming.owners, keyRegister, groupNaming]
  rw [namings, Naming.owners_append, hgroups, List.nil_append]
  induction es with
  | nil => rfl
  | cons e rest ih =>
    rw [List.flatMap_cons, Naming.owners_append, ih]
    cases hstream : e.isStream <;> cases isStream <;>
      simp [Naming.owners, Endpoint.namings, keyRegister, hstream]

/-- A naming and the earlier one that it meets stand in their register in this order, when no naming
before the run is in that register. -/
lemma Naming.sublist_owners_of_isFirstMeeting {ms ns : List Naming} {earlier later : Naming}
    (h : IsFirstMeeting ms ns earlier later) (hms : ∀ m ∈ ms, m.register ≠ later.register) :
    [(later.name, earlier.owner), (later.name, later.owner)].Sublist
      (owners later.register ns) := by
  obtain ⟨before, after, rfl, _, hearlier, hplace⟩ := h
  obtain ⟨hregister, hname⟩ := Prod.mk.inj hplace
  have hbefore : earlier ∈ before := by
    rcases List.mem_append.mp hearlier with hm | hb
    · exact absurd hregister (hms earlier hm)
    · exact hb
  have hfirst : (later.name, earlier.owner) ∈ owners later.register before := by
    rw [owners, List.mem_map]
    exact ⟨earlier, by simp [hbefore, hregister], by rw [hname]⟩
  have hlater : owners later.register (later :: after) =
      (later.name, later.owner) :: owners later.register after := by
    simp [owners]
  rw [owners_append, hlater]
  exact (List.singleton_sublist.mpr hfirst).append ((List.nil_sublist _).cons_cons _)

/-- Two endpoints of one table, the first declared before the second, whose keys have one text. -/
structure KeysMeet (es : List Endpoint) (name first second : String) (e e' : Endpoint) : Prop where
  sublist : [e, e'].Sublist es
  isStream : e.isStream = e'.isStream
  text : e.key.text = name
  text' : e'.key.text = name
  origin : e.origin = first
  origin' : e'.origin = second

/-- A collision of keys is one of two endpoints. -/
lemma exists_keysMeet_of_firstCollision {groups : Groups} {es : List Endpoint}
    {name first second : String}
    (h : FirstCollision groups es (.collision .endpointKey name first second)) :
    ∃ e e', KeysMeet es name first second e e' := by
  generalize herr : Error.collision .endpointKey name first second = err at h
  cases h with
  | invalidInput => cases herr
  | typeName => cases herr
  | @naming earlier later hmeeting =>
    injection herr with hkind hname hfirst hsecond
    obtain ⟨isStream, hregister⟩ := exists_eq_keyRegister hkind.symm
    have hsupport : ∀ m ∈ supportNamings, m.register ≠ later.register := by
      rw [hregister]
      cases isStream <;> decide
    have hsublist := Naming.sublist_owners_of_isFirstMeeting hmeeting hsupport
    -- Two entries in a register of keys are those of two endpoints of the table, in their order.
    rw [hregister, owners_keyRegister, List.sublist_map_iff] at hsublist
    obtain ⟨own, hown, hpair⟩ := hsublist
    obtain ⟨e, rest, rfl, hhead, hrest⟩ := List.map_eq_cons_iff.mp hpair.symm
    obtain ⟨e', rest, rfl, hhead', hnil⟩ := List.map_eq_cons_iff.mp hrest
    obtain rfl := List.map_eq_nil_iff.mp hnil
    obtain ⟨htext, horigin⟩ := Prod.mk.inj hhead
    obtain ⟨htext', horigin'⟩ := Prod.mk.inj hhead'
    have hstream : ∀ x ∈ [e, e'], x.isStream = isStream := fun x hx =>
      of_decide_eq_true (List.mem_filter.mp (hown.subset hx)).2
    exact ⟨e, e', hown.trans List.filter_sublist,
      (hstream e (by simp)).trans (hstream e' (by simp)).symm, htext.trans hname.symm,
      htext'.trans hname.symm, horigin.trans hfirst.symm, horigin'.trans hsecond.symm⟩

/-! ### Endpoints by their keys -/

/-- Endpoints are told apart by the texts of their keys. The texts of keys whose paths have no space
are equal only for equal variants, methods and paths, whatever text a variant is. The keys of the
endpoints of an operation, one for each of its tags, have different texts when the tags are
different. And where validation reports a collision of keys, it is one of two endpoints of one
table, which are of the same variant, method and path if their paths have no space. -/
theorem keys_tell_endpoints_apart {η : Type} :
    (∀ k k' : EndpointKey, ' ' ∉ k.path.toList → ' ' ∉ k'.path.toList → k.text = k'.text →
      k.variant = k'.variant ∧ k.method = k'.method ∧ k.path = k'.path) ∧
    (∀ (group : String) (op : Operation) (own : List Endpoint), op.schemas.keys.Nodup →
      Endpoint.ofOperation group op = .ok own →
      own.map Endpoint.key =
          (if op.hasVariants then op.schemas.keys else [defaultVariant]).map
            (EndpointKey.ofVariant op) ∧
        (keyTexts own).Nodup) ∧
    ∀ (groups : Groups) (es : List Endpoint) (name first second : String),
      (validate groups es : Traced η Unit).result =
        .error (.collision .endpointKey name first second) →
      ∃ e e', KeysMeet es name first second e e' ∧
        (' ' ∉ e.key.path.toList → ' ' ∉ e'.key.path.toList →
          e.key.variant = e'.key.variant ∧ e.key.method = e'.key.method ∧
            e.key.path = e'.key.path) := by
  have hkeys : ∀ k k' : EndpointKey, ' ' ∉ k.path.toList → ' ' ∉ k'.path.toList →
      k.text = k'.text → k.variant = k'.variant ∧ k.method = k'.method ∧ k.path = k'.path := by
    intro k k' hk hk' h
    obtain rfl := (EndpointKey.text_eq_iff hk hk').mp h
    exact ⟨rfl, rfl, rfl⟩
  refine ⟨hkeys, ?_, ?_⟩
  · intro group op own hschemas hown
    exact ⟨map_key_of_ofOperation hown, nodup_keyTexts_of_ofOperation hschemas hown⟩
  · intro groups es name first second hreport
    have hcheck := checkNames_of_validate_eq_collision hreport
    rw [checkNames_eq_error_iff] at hcheck
    obtain ⟨e, e', hmeet⟩ := exists_keysMeet_of_firstCollision hcheck
    refine ⟨e, e', hmeet, fun hpath hpath' => ?_⟩
    exact hkeys _ _ hpath hpath' (hmeet.text.trans hmeet.text'.symm)

/-- An operation with variants whose tags have spaces, one of them the text of a key. -/
def importItems : Operation :=
  { Operation.new "importItems" .post "/items" with
    schemas := [("default", "{}"), ("GET /items", "{}"), ("text csv", "{}")] }

/-- The key of the variant that looks like a key. -/
def importKey : EndpointKey := ⟨some "GET /items", .post, "/items"⟩

/-- A group with a second operation that has a variant, the method and the path of the first. -/
def twoImports : Groups :=
  [("items", [importItems, { importItems with
    name := "loadItems", schemas := [("text csv", "{}"), ("text/plain", "{}")] }])]

theorem keys_of_twoImports : ∃ own es,
    importKey.text = (EndpointKey.ofVariant importItems "GET /items").text ∧
    importKey.variant = (EndpointKey.ofVariant importItems "GET /items").variant ∧
    Endpoint.ofOperation "items" importItems = .ok own ∧ (keyTexts own).Nodup ∧
    keyTexts own = ["POST /items", "GET /items POST /items", "text csv POST /items"] ∧
    Endpoint.ofGroups twoImports = .ok es ∧
    ∃ e e', KeysMeet es "text csv POST /items" "items.importItems [text csv]"
        "items.loadItems [text csv]" e e' ∧
      e.key.variant = e'.key.variant ∧ e.key.method = e'.key.method ∧
        e.key.path = e'.key.path := by
  obtain ⟨hkeys, hoperation, hreports⟩ := keys_tell_endpoints_apart (η := Unit)
  obtain ⟨own, hown⟩ : ∃ own, Endpoint.ofOperation "items" importItems = .ok own :=
    exists_eq_ok rfl
  obtain ⟨es, hes⟩ : ∃ es, Endpoint.ofGroups twoImports = .ok es := exists_eq_ok rfl
  have htext : importKey.text = (EndpointKey.ofVariant importItems "GET /items").text := by decide
  have hreport : (validate twoImports es : Traced Unit Unit).result =
      .error (.collision .endpointKey "text csv POST /items" "items.importItems [text csv]"
        "items.loadItems [text csv]") := by
    cases hes
    rfl
  have hpaths : ∀ x ∈ es, ' ' ∉ x.key.path.toList := by
    cases hes
    decide
  obtain ⟨e, e', hmeet, hsame⟩ := hreports twoImports es _ _ _ hreport
  refine ⟨own, es, htext, (hkeys _ _ (by decide) (by decide) htext).1, hown,
    (hoperation "items" importItems own (by decide) hown).2, ?_, hes, e, e', hmeet,
    hsame (hpaths e (hmeet.sublist.subset (by simp)))
      (hpaths e' (hmeet.sublist.subset (by simp)))⟩
  cases hown
  rfl

end ApiContract.Client
