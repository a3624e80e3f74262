import ApiContract.Proofs.Json.Reordering
import ApiContract.Proofs.Results
import ApiContract.Spec.TypeNode

/-!
# What is below values and nodes

JSON values and type nodes have other values and nodes directly below them (`Json.parts`,
`TypeNode.parts`), and what holds of a node when it holds of those directly below it holds of every
node (`TypeNode.induction_parts`). Reading and writing are said here layer by layer: an object is
read by its kind when it is tagged and by its fields otherwise, and what is directly below a value
is read as what is directly below its node (`TypeNode.parts_ofJson`).
-/

namespace ApiContract

namespace TypeNode

/-! ### Below a node -/

/-- The nodes directly below a node. -/
def parts : TypeNode → List TypeNode
  | .named _ => []
  | .literal _ children | .record children | .array children | .union children
  | .intersection children | .wrapped _ children => children
  | .composite fields => Table.values fields

/-- A node with each node directly below it changed. -/
def mapParts (f : TypeNode → TypeNode) : TypeNode → TypeNode
  | .named name => .named name
  | .literal value children => .literal value (children.map f)
  | .record children => .record (children.map f)
  | .array children => .array (children.map f)
  | .union children => .union (children.map f)
  | .intersection children => .intersection (children.map f)
  | .wrapped kind children => .wrapped kind (children.map f)
  | .composite fields => .composite (fields.map fun e => (e.1, f e.2))

lemma sizeOf_lt_of_mem_parts {n m : TypeNode} (h : m ∈ n.parts) : sizeOf m < sizeOf n := by
  cases n with
  | named name => cases h
  | composite fields =>
    obtain ⟨e, he, rfl⟩ := List.mem_map.mp h
    have hlt : sizeOf e < sizeOf fields := List.sizeOf_lt_of_mem he
    have hpair : sizeOf e = 1 + sizeOf e.1 + sizeOf e.2 := rfl
    simp only [composite.sizeOf_spec]
    omega
  | _ =>
    simp only [parts] at h
    have hlt := List.sizeOf_lt_of_mem h
    simp only [literal.sizeOf_spec, record.sizeOf_spec, array.sizeOf_spec, union.sizeOf_spec,
      intersection.sizeOf_spec, wrapped.sizeOf_spec]
    omega

/-- What holds of a node when it holds of the nodes directly below it holds of every node. -/
theorem induction_parts {P : TypeNode → Prop} (h : ∀ n, (∀ m ∈ n.parts, P m) → P n) (n : TypeNode) :
    P n :=
  h n fun m hm =>
    have := sizeOf_lt_of_mem_parts hm
    induction_parts h m
termination_by sizeOf n

/-- Changing what is directly below a node changes nothing exactly when nothing there changes. -/
lemma mapParts_eq_self_iff (f : TypeNode → TypeNode) (n : TypeNode) :
    n.mapParts f = n ↔ ∀ m ∈ n.parts, f m = m := by
  cases n with
  | named name => simp [mapParts, parts]
  | composite fields =>
    rw [mapParts, composite.injEq, map_eq_self_iff, parts, Table.values, List.forall_mem_map]
    simp [Prod.ext_iff]
  | _ => simp [mapParts, parts, map_eq_self_iff]

/-! ### Reading and writing one layer -/

lemma ofItems_eq_map (items : List Json) : ofItems items = items.map ofJson := by
  induction items with
  | nil => rfl
  | cons v rest ih => rw [ofItems, ih, List.map_cons]

lemma ofMembers_eq_map (members : List (String × Json)) :
    ofMembers members = members.map fun e => (e.1, ofJson e.2) := by
  induction members with
  | nil => rfl
  | cons e rest ih => rw [ofMembers, ih, List.map_cons]

lemma toItems_eq_map (nodes : List TypeNode) : toItems nodes = nodes.map toJson := by
  induction nodes with
  | nil => rfl
  | cons n rest ih => rw [toItems, ih, List.map_cons]

lemma toMembers_eq_map (fields : List (String × TypeNode)) :
    toMembers fields = fields.map fun e => (e.1, toJson e.2) := by
  induction fields with
  | nil => rfl
  | cons e rest ih => rw [toMembers, ih, List.map_cons]

/-- The values of the children in an object. -/
def childValues (members : List (String × Json)) : List Json :=
  ((Table.find? "children" members).bind Json.items?).getD []

lemma childrenOf_eq_map (members : List (String × Json)) :
    childrenOf members = (childValues members).map ofJson := by
  induction members with
  | nil => rfl
  | cons e rest ih =>
    obtain ⟨key, v⟩ := e
    by_cases hkey : key = "children"
    · cases v <;> simp [childrenOf, childValues, hkey, Json.items?, ofItems_eq_map]
    · have hrest : childValues ((key, v) :: rest) = childValues rest := by
        simp [childValues, hkey]
      rw [hrest, ← ih]
      cases v <;> simp [childrenOf, hkey]

/-- The kinds that name a form of their own. -/
def reservedKinds : List String := ["literal", "record", "array", "union", "intersection"]

/-- Whether an object is read by its kind and children and not by its fields. -/
def isTagged (members : List (String × Json)) : Bool :=
  match Table.find? "kind" members with
  | some (.string kind) => decide (kind ∈ reservedKinds) || hasChildren members
  | _ => false

/-- The values directly below a value that are read as nodes: the items of an array, the children
of an object that is read by its kind, the members of any other object. -/
def nodeValues : Json → List Json
  | .array items => items
  | .object members => if isTagged members then childValues members else Table.values members
  | _ => []

lemma hasChildren_eq (members : List (String × Json)) :
    hasChildren members = decide (childValues members ≠ []) := by
  unfold hasChildren childValues
  cases Table.find? "children" members with
  | none => rfl
  | some v => cases v with
    | array items => cases items <;> rfl
    | _ => rfl

/-- A node of a kind with children; a kind that is not reserved makes a wrapper. -/
def ofKind (kind : String) (value : Json) (children : List TypeNode) : TypeNode :=
  if kind = "literal" then .literal value children
  else if kind = "record" then .record children
  else if kind = "array" then .array children
  else if kind = "union" then .union children
  else if kind = "intersection" then .intersection children
  else .wrapped kind children

lemma parts_ofKind (kind : String) (value : Json) (children : List TypeNode) :
    (ofKind kind value children).parts = children := by
  unfold ofKind
  repeat' split
  all_goals rfl

lemma ofKind_of_not_mem {kind : String} (h : kind ∉ reservedKinds) (value : Json)
    (children : List TypeNode) : ofKind kind value children = .wrapped kind children := by
  simp only [reservedKinds, List.mem_cons, List.not_mem_nil, or_false, not_or] at h
  simp [ofKind, h]

/-- An object that is tagged is read by its kind. -/
lemma ofJson_of_isTagged {members : List (String × Json)} {kind : String}
    (hkind : Table.find? "kind" members = some (.string kind)) (h : isTagged members = true) :
    ofJson (.object members) =
      ofKind kind ((Table.find? "value" members).getD .null) (childrenOf members) := by
  rw [ofJson, hkind]
  by_cases hreserved : kind ∈ reservedKinds
  · simp only [reservedKinds, List.mem_cons, List.not_mem_nil, or_false] at hreserved
    rcases hreserved with rfl | rfl | rfl | rfl | rfl <;> rfl
  · have hchildren : hasChildren members = true := by simpa [isTagged, hkind, hreserved] using h
    simp only [ofKind, hchildren, if_true]

/-- Any other object is read by its fields. -/
lemma ofJson_of_not_isTagged {members : List (String × Json)} (h : isTagged members = false) :
    ofJson (.object members) = .composite (ofMembers members) := by
  rw [ofJson]
  split
  · rename_i kind hkind
    simp only [isTagged, hkind, Bool.or_eq_false_iff, decide_eq_false_iff_not, reservedKinds,
      List.mem_cons, List.not_mem_nil, or_false, not_or] at h
    simp [h]
  · rfl

lemma exists_kind_of_isTagged {members : List (String × Json)} (h : isTagged members = true) :
    ∃ kind, Table.find? "kind" members = some (.string kind) ∧
      (kind ∈ reservedKinds ∨ childValues members ≠ []) := by
  unfold isTagged at h
  split at h
  · rename_i kind hkind
    rw [Bool.or_eq_true, hasChildren_eq, decide_eq_true_iff, decide_eq_true_iff] at h
    exact ⟨kind, hkind, h⟩
  · cases h

/-- What is directly below a value is read as what is directly below its node. -/
theorem parts_ofJson (v : Json) : (ofJson v).parts = (nodeValues v).map ofJson := by
  cases v with
  | array items => rw [ofJson, parts, ofItems_eq_map, nodeValues]
  | object members =>
    rw [nodeValues]
    cases htagged : isTagged members with
    | true =>
      obtain ⟨kind, hkind, _⟩ := exists_kind_of_isTagged htagged
      rw [ofJson_of_isTagged hkind htagged, parts_ofKind, childrenOf_eq_map, if_pos rfl]
    | false =>
      rw [ofJson_of_not_isTagged htagged, parts, ofMembers_eq_map, if_neg Bool.false_ne_true]
      simp [Table.values, Function.comp_def]
  | _ => rfl

end TypeNode

end ApiContract
