import ApiContract.Proofs.Spec.NodeParts

/-!
# Type nodes that are read back

A node is written as a value and read again (`reread`). A wrapper comes back as a wrapper only with
a kind of its own and with children, since an object without children is read as a composite; a
composite comes back as a composite unless its field `kind` is written as the name of a reserved
kind. `IsTold` says this of one node, and a node is canonical when it holds throughout it.

No node is written as an array, so a composite with a field `children` is never taken for a wrapper.
A node that is told is therefore read back with each node below it read back
(`reread_eq_mapParts`), and one that is not comes back with another constructor. From values only
an array without items is read as a node that is not told (`isTold_ofJson_iff`).
-/

namespace ApiContract.TypeNode

/-! ### Canonical nodes -/

/-- A node whose own form is read back from what it is written as: a wrapper has children and a
kind of its own, and a composite does not give its field `kind` the name of a reserved kind. -/
def IsTold : TypeNode → Prop
  | .wrapped kind children => children ≠ [] ∧ kind ∉ reservedKinds
  | .composite fields => ∀ kind ∈ reservedKinds, Table.find? "kind" fields ≠ some (.named kind)
  | _ => True

/-- Every node of a node is told. -/
def Canonical (n : TypeNode) : Prop := Throughout parts IsTold n

lemma canonical_iff {n : TypeNode} : n.Canonical ↔ n.IsTold ∧ ∀ m ∈ n.parts, m.Canonical :=
  throughout_iff

lemma isTold_ofKind {kind : String} {children : List TypeNode}
    (h : kind ∈ reservedKinds ∨ children ≠ []) (value : Json) :
    (ofKind kind value children).IsTold := by
  by_cases hreserved : kind ∈ reservedKinds
  · simp only [reservedKinds, List.mem_cons, List.not_mem_nil, or_false] at hreserved
    rcases hreserved with rfl | rfl | rfl | rfl | rfl <;> trivial
  · rw [ofKind_of_not_mem hreserved]
    exact ⟨h.resolve_left hreserved, hreserved⟩

lemma eq_string_of_ofJson_eq_named {v : Json} {name : String} (h : ofJson v = .named name) :
    v = .string name ∨ name = "any" := by
  cases v with
  | string s =>
    rw [ofJson, named.injEq] at h
    exact Or.inl (by rw [h])
  | null =>
    rw [ofJson, named.injEq] at h
    exact Or.inr h.symm
  | object members =>
    cases htagged : isTagged members with
    | true =>
      obtain ⟨kind, hkind, _⟩ := exists_kind_of_isTagged htagged
      rw [ofJson_of_isTagged hkind htagged] at h
      unfold ofKind at h
      repeat' split at h
      all_goals cases h
    | false =>
      rw [ofJson_of_not_isTagged htagged] at h
      cases h
  | _ => cases h

/-- The only value that is read as a node that is not told is the array without items. -/
theorem isTold_ofJson_iff (v : Json) : (ofJson v).IsTold ↔ v ≠ .array [] := by
  cases v with
  | array items =>
    rw [ofJson, ofItems_eq_map]
    simp [IsTold, reservedKinds]
  | object members =>
    refine ⟨fun _ h => (by cases h), fun _ => ?_⟩
    cases htagged : isTagged members with
    | true =>
      obtain ⟨kind, hkind, hchildren⟩ := exists_kind_of_isTagged htagged
      rw [ofJson_of_isTagged hkind htagged, childrenOf_eq_map]
      exact isTold_ofKind (hchildren.imp_right fun hne => by simpa using hne) _
    | false =>
      rw [ofJson_of_not_isTagged htagged, ofMembers_eq_map]
      intro kind hreserved hfind
      rw [Table.find?_map_value, Option.map_eq_some_iff] at hfind
      obtain ⟨v, hv, hnamed⟩ := hfind
      rcases eq_string_of_ofJson_eq_named hnamed with rfl | rfl
      · simp [isTagged, hv, hreserved] at htagged
      · exact absurd hreserved (by decide)
  | _ => exact ⟨fun _ h => (by cases h), fun _ => trivial⟩

/-! ### Reading back -/

/-- What a node is read as after it was written. -/
def reread (n : TypeNode) : TypeNode := ofJson (toJson n)

/-- Nodes are not written as arrays. -/
lemma items?_toJson (n : TypeNode) : (toJson n).items? = none := by
  cases n <;> rfl

lemma eq_named_of_toJson_eq_string {n : TypeNode} {name : String} (h : toJson n = .string name) :
    n = .named name := by
  cases n with
  | named s =>
    rw [toJson, Json.string.injEq] at h
    rw [h]
  | _ => cases h

/-- A composite is never written with children. -/
lemma childValues_toMembers (fields : List (String × TypeNode)) :
    childValues (toMembers fields) = [] := by
  rw [childValues, toMembers_eq_map, Table.find?_map_value]
  cases Table.find? "children" fields with
  | none => rfl
  | some n => simp [items?_toJson]

lemma isTagged_toMembers {fields : List (String × TypeNode)} (h : IsTold (.composite fields)) :
    isTagged (toMembers fields) = false := by
  cases htagged : isTagged (toMembers fields) with
  | false => rfl
  | true =>
    obtain ⟨kind, hkind, hreserved⟩ := exists_kind_of_isTagged htagged
    rw [toMembers_eq_map, Table.find?_map_value, Option.map_eq_some_iff] at hkind
    obtain ⟨n, hn, hstring⟩ := hkind
    rw [eq_named_of_toJson_eq_string hstring] at hn
    have hmem : kind ∈ reservedKinds :=
      hreserved.resolve_right fun hne => hne (childValues_toMembers fields)
    exact absurd hn (h kind hmem)

/-- An object written with a kind and children is read by its kind when the kind is reserved or
there are children. -/
lemma ofJson_tagged {kind : String} {children : List TypeNode}
    (h : kind ∈ reservedKinds ∨ children ≠ []) (more : List (String × Json)) :
    ofJson (.object (tagged kind (toItems children) ++ more)) =
      ofKind kind ((Table.find? "value" more).getD .null) (children.map reread) := by
  have hkind : Table.find? "kind" (tagged kind (toItems children) ++ more) = some (.string kind) :=
    rfl
  have hchildren : childValues (tagged kind (toItems children) ++ more) = toItems children := rfl
  have htagged : isTagged (tagged kind (toItems children) ++ more) = true := by
    have hitems : toItems children ≠ [] ↔ children ≠ [] := by simp [toItems_eq_map]
    simp only [isTagged, hkind, hasChildren_eq, hchildren, hitems]
    simpa using h
  have hmap : (toItems children).map ofJson = children.map reread := by
    rw [toItems_eq_map, List.map_map]
    rfl
  rw [ofJson_of_isTagged hkind htagged, childrenOf_eq_map, hchildren, hmap]
  rfl

/-- A node that is told is read back with the nodes directly below it read back. -/
theorem reread_eq_mapParts {n : TypeNode} (h : n.IsTold) : n.reread = n.mapParts reread := by
  have htag : ∀ {kind} children, kind ∈ reservedKinds ∨ children ≠ [] →
      ofJson (.object (tagged kind (toItems children))) =
        ofKind kind .null (children.map reread) := fun {kind} children hkind => by
    have := ofJson_tagged hkind []
    rwa [List.append_nil] at this
  unfold reread
  cases n with
  | named name => rfl
  | literal value children =>
    rw [toJson, ofJson_tagged (Or.inl (by decide))]
    rfl
  | wrapped kind children =>
    rw [toJson, htag children (Or.inr h.1), ofKind_of_not_mem h.2]
    rfl
  | composite fields =>
    rw [toJson, ofJson_of_not_isTagged (isTagged_toMembers h), ofMembers_eq_map, toMembers_eq_map,
      List.map_map]
    rfl
  | _ =>
    rw [toJson, htag _ (Or.inl (by decide))]
    rfl

/-- A reserved kind makes neither a wrapper nor a composite. -/
lemma ctorIdx_ofKind_lt {kind : String} (h : kind ∈ reservedKinds) (value : Json)
    (children : List TypeNode) :
    (ofKind kind value children).ctorIdx < (TypeNode.wrapped kind children).ctorIdx := by
  simp only [reservedKinds, List.mem_cons, List.not_mem_nil, or_false] at h
  rcases h with rfl | rfl | rfl | rfl | rfl <;> exact Nat.le_of_ble_eq_true rfl

/-- A node that is not told comes back with another form. -/
theorem ctorIdx_reread_ne {n : TypeNode} (h : ¬ n.IsTold) : n.reread.ctorIdx ≠ n.ctorIdx := by
  unfold reread
  cases n with
  | wrapped kind children =>
    rw [toJson, ← List.append_nil (tagged _ _)]
    by_cases hreserved : kind ∈ reservedKinds
    · rw [ofJson_tagged (Or.inl hreserved)]
      exact Nat.ne_of_lt (ctorIdx_ofKind_lt hreserved _ (children.map reread))
    · have hnil : children = [] := by
        by_contra hne
        exact h ⟨hne, hreserved⟩
      have htagged : isTagged (tagged kind (toItems children) ++ []) = false := by
        subst hnil
        simp [isTagged, tagged, toItems, hasChildren, hreserved]
      rw [ofJson_of_not_isTagged htagged]
      exact Nat.succ_ne_self _
  | composite fields =>
    obtain ⟨kind, hreserved, hkind⟩ : ∃ kind ∈ reservedKinds,
        Table.find? "kind" fields = some (.named kind) := by
      simpa only [IsTold, not_forall, not_not, exists_prop] using h
    have hwritten : Table.find? "kind" (toMembers fields) = some (.string kind) := by
      rw [toMembers_eq_map, Table.find?_map_value, hkind]
      rfl
    have htagged : isTagged (toMembers fields) = true := by simp [isTagged, hwritten, hreserved]
    rw [toJson, ofJson_of_isTagged hwritten htagged]
    have hlt := ctorIdx_ofKind_lt hreserved ((Table.find? "value" (toMembers fields)).getD .null)
      (childrenOf (toMembers fields))
    exact Nat.ne_of_lt (Nat.lt_trans hlt (Nat.lt_succ_self _))
  | _ => exact absurd trivial h

/-- A node is read back unchanged exactly when it is canonical. -/
theorem reread_eq_self_iff (n : TypeNode) : n.reread = n ↔ n.Canonical := by
  induction n using induction_parts with
  | h n ih =>
    rw [canonical_iff]
    by_cases htold : n.IsTold
    · have hparts : (∀ m ∈ n.parts, m.reread = m) ↔ ∀ m ∈ n.parts, m.Canonical :=
        forall₂_congr ih
      rw [reread_eq_mapParts htold, mapParts_eq_self_iff, hparts]
      exact ⟨fun h => ⟨htold, h⟩, fun h => h.2⟩
    · refine ⟨fun h => ?_, fun h => absurd h.1 htold⟩
      exact absurd (congrArg TypeNode.ctorIdx h) (ctorIdx_reread_ne htold)

/-! ### Equality apart from order -/

mutual

/-- Equality of nodes, the order of fields and of members of literal values aside. -/
def same : TypeNode → TypeNode → Bool
  | .named a, .named b => a == b
  | .literal v as, .literal w bs => v.same w && sameItems as bs
  | .record as, .record bs => sameItems as bs
  | .array as, .array bs => sameItems as bs
  | .union as, .union bs => sameItems as bs
  | .intersection as, .intersection bs => sameItems as bs
  | .wrapped kind as, .wrapped other bs => kind == other && sameItems as bs
  | .composite as, .composite bs => as.length == bs.length && sameFields as bs
  | _, _ => false

/-- Equality of lists of nodes. -/
def sameItems : List TypeNode → List TypeNode → Bool
  | [], [] => true
  | a :: as, b :: bs => same a b && sameItems as bs
  | _, _ => false

/-- Whether every field of the first composite is in the second. -/
def sameFields : List (String × TypeNode) → List (String × TypeNode) → Bool
  | [], _ => true
  | (key, a) :: rest, others =>
    (match Table.find? key others with
      | some b => same a b
      | none => false) && sameFields rest others

end

/-- A node that programs can hold: the fields of a composite have different names, and so have the
members of every object in a literal value. -/
def Constructible (n : TypeNode) : Prop :=
  Throughout parts (fun
    | .literal value _ => value.HasDistinctKeys
    | .composite fields => (Table.keys fields).Nodup
    | _ => True) n

lemma ctorIdx_eq_of_same {n m : TypeNode} (h : n.same m = true) : n.ctorIdx = m.ctorIdx := by
  cases n <;> cases m <;> first | rfl | cases h

lemma sameItems_map_iff (f : TypeNode → TypeNode) (nodes : List TypeNode) :
    sameItems (nodes.map f) nodes = true ↔ ∀ n ∈ nodes, (f n).same n = true := by
  induction nodes with
  | nil => simp [sameItems]
  | cons n rest ih => rw [List.map_cons, sameItems, Bool.and_eq_true, ih, List.forall_mem_cons]

lemma sameFields_iff {fields others : List (String × TypeNode)} :
    sameFields fields others = true ↔
      ∀ e ∈ fields, ∃ n, Table.find? e.1 others = some n ∧ e.2.same n = true := by
  induction fields with
  | nil => simp [sameFields]
  | cons e rest ih =>
    obtain ⟨key, n⟩ := e
    rw [sameFields, Bool.and_eq_true, ih, List.forall_mem_cons]
    cases Table.find? key others <;> simp

/-- A node is the same with the nodes directly below it changed exactly when each of these is. -/
lemma same_mapParts_iff {n : TypeNode} (h : n.Constructible) (f : TypeNode → TypeNode) :
    (n.mapParts f).same n = true ↔ ∀ m ∈ n.parts, (f m).same m = true := by
  have hnode := (throughout_iff.mp h).1
  cases n with
  | named name => simp [mapParts, same, parts]
  | literal value children =>
    rw [mapParts, same, Json.same_self value hnode, Bool.true_and, sameItems_map_iff, parts]
  | composite fields =>
    rw [mapParts, same, List.length_map, beq_self_eq_true, Bool.true_and, sameFields_iff, parts,
      Table.values, List.forall_mem_map, List.forall_mem_map]
    refine forall₂_congr fun e he => ?_
    rw [Table.find?_of_mem hnode he]
    simp
  | wrapped kind children =>
    rw [mapParts, same, beq_self_eq_true, Bool.true_and, sameItems_map_iff, parts]
  | _ => rw [mapParts, same, sameItems_map_iff, parts]

/-- The same holds when equality does not regard order. -/
theorem same_reread_iff {n : TypeNode} (h : n.Constructible) :
    n.reread.same n = true ↔ n.Canonical := by
  induction n using induction_parts with
  | h n ih =>
    have hbelow := (throughout_iff.mp h).2
    rw [canonical_iff]
    by_cases htold : n.IsTold
    · have hparts : (∀ m ∈ n.parts, m.reread.same m = true) ↔ ∀ m ∈ n.parts, m.Canonical :=
        forall₂_congr fun m hm => ih m hm (hbelow m hm)
      rw [reread_eq_mapParts htold, same_mapParts_iff h, hparts]
      exact ⟨fun h => ⟨htold, h⟩, fun h => h.2⟩
    · refine ⟨fun h => ?_, fun h => absurd h.1 htold⟩
      exact absurd (ctorIdx_eq_of_same h) (ctorIdx_reread_ne htold)

/-! ### The domain of the written form -/

/-- A value without an empty array where a node is read. -/
def HasNoEmptyList (v : Json) : Prop := Throughout nodeValues (· ≠ .array []) v

/-- The nodes that are read back from what they are written as are the canonical ones, and those
that are read from values are canonical unless an array without items is read as a node. -/
theorem same_reread_iff_canonical :
    (∀ n : TypeNode, n.Constructible →
      ((ofJson (toJson n)).same n = true ↔ n.Canonical) ∧ (ofJson (toJson n) = n ↔ n.Canonical)) ∧
    ∀ v : Json, (ofJson v).Canonical ↔ HasNoEmptyList v := by
  refine ⟨fun n hn => ⟨same_reread_iff hn, reread_eq_self_iff n⟩, fun v => ?_⟩
  have hread : (ofJson v).Canonical ↔ Throughout nodeValues (fun w => (ofJson w).IsTold) v :=
    throughout_map_iff parts_ofJson v
  have htold : (fun w => (ofJson w).IsTold) = (· ≠ .array []) := funext fun w =>
    propext (isTold_ofJson_iff w)
  rw [hread, htold, HasNoEmptyList]

/-- A composite with fields named like the parts of a tagged object, and a wrapped literal. -/
def parcelNode : TypeNode :=
  .composite [("kind", .named "parcel"), ("children", .array []),
    ("weight", .wrapped "branded" [.literal (.number (.integer 3)) []])]

/-- The list without items. -/
def emptyList : TypeNode := .wrapped "list" []

theorem same_reread_parcelNode :
    parcelNode.Constructible ∧ emptyList.Constructible ∧
    (parcelNode.Canonical ∧ ofJson (toJson parcelNode) = parcelNode) ∧
    (¬ emptyList.Canonical ∧ (ofJson (toJson emptyList)).same emptyList = false) ∧
    ¬ HasNoEmptyList (.object [("kind", .string "union"), ("children", .array [.array []])]) := by
  have hnumber : Json.HasDistinctKeys (.number (.integer 3)) :=
    throughout_of_below_eq_nil rfl fun _ h => by cases h
  have hliteral : Constructible (.literal (.number (.integer 3)) []) :=
    throughout_of_below_eq_nil rfl hnumber
  have hweight : Constructible (.wrapped "branded" [.literal (.number (.integer 3)) []]) :=
    throughout_iff.mpr ⟨trivial, List.forall_mem_singleton.mpr hliteral⟩
  have hkind : Constructible (.named "parcel") := throughout_of_below_eq_nil rfl trivial
  have hchildren : Constructible (.array []) := throughout_of_below_eq_nil rfl trivial
  have hempty : emptyList.Constructible := throughout_of_below_eq_nil rfl trivial
  have hparcel : parcelNode.Constructible := by
    have hkeys : ["kind", "children", "weight"].Nodup := by decide
    have hparts : ∀ m ∈ [TypeNode.named "parcel", .array [],
        .wrapped "branded" [.literal (.number (.integer 3)) []]], m.Constructible := by
      simp only [List.forall_mem_cons]
      exact ⟨hkind, hchildren, hweight, List.forall_mem_nil _⟩
    exact throughout_iff.mpr ⟨hkeys, hparts⟩
  have hreread : ofJson (toJson parcelNode) = parcelNode := by rfl
  have hlost : (ofJson (toJson emptyList)).same emptyList = false := by decide
  obtain ⟨hnodes, hvalues⟩ := same_reread_iff_canonical
  refine ⟨hparcel, hempty, ⟨(hnodes _ hparcel).2.mp hreread, hreread⟩, ⟨fun h => ?_, hlost⟩,
    fun h => ?_⟩
  · exact absurd ((hnodes _ hempty).1.mpr h) (by rw [hlost]; decide)
  · have hcanonical := (hvalues _).mpr h
    have hchild : Canonical (.wrapped "list" []) := (canonical_iff.mp hcanonical).2 _ (by
      exact List.mem_singleton_self _)
    exact absurd rfl (canonical_iff.mp hchild).1.1

end ApiContract.TypeNode
