import ApiContract.OpenApi.Schema
import ApiContract.Proofs.Spec.NodeParts

/-!
# The grammar of schemas

What the schema of a node can be is said by a grammar on values alone (`IsSchema`), and so is what a
schema at any depth of another is (`IsPosition`). The schemas in that of a node are those of the
nodes that it is made of (`TypeNode.Shows`), and that of anything (`exists_source_of_isPosition`,
`isPosition_of_shows`); so its objects with fixed properties, its enumerations and its references
are those of the composites, literals and references among these nodes.

The type of a literal is where the induction needs the grammar: it is taken out of the schema of the
first child, and the grammar says that it is a text there.
-/

namespace ApiContract

/-! ### Nodes that a schema is made of -/

namespace TypeNode

/-- The nodes directly below a node whose schemas its own schema is made of. -/
def shown : TypeNode → List TypeNode
  | .named _ | .literal _ _ => []
  | .record children | .array children | .wrapped _ children => children.take 1
  | .union children | .intersection children => children
  | .composite fields => Table.values fields

/-- The schema of a node is made of that of another, at any depth. -/
def Shows (n m : TypeNode) : Prop := Relation.ReflTransGen (fun x y => y ∈ shown x) n m

/-- The node whose schema a node has: a wrapper stands for its first child. -/
def unwrapped : TypeNode → TypeNode
  | .wrapped _ (child :: _) => unwrapped child
  | n => n

lemma shows_unwrapped (n : TypeNode) : n.Shows n.unwrapped := by
  fun_induction unwrapped n with
  | case1 kind child rest ih => exact .head List.mem_cons_self ih
  | case2 n h => exact .refl

lemma unwrapped_ne_wrapped (n : TypeNode) (kind : String) (child : TypeNode)
    (rest : List TypeNode) : n.unwrapped ≠ .wrapped kind (child :: rest) := by
  fun_induction unwrapped n with
  | case1 _ _ _ ih => exact ih
  | case2 n h => exact h kind child rest

end TypeNode

namespace Schema

/-! ### The grammar -/

/-- The values that schemas are. -/
inductive IsSchema : Json → Prop where
  /-- A reference to a definition. -/
  | reference {name : String} (h : TypeNode.isReferenceName name = true) :
      IsSchema (.object [("$ref", .string name)])
  | type {name : String} (h : TypeNode.isReferenceName name = false) :
      IsSchema (.object [("type", .string name)])
  /-- One value with the name of its type. -/
  | literal (value : Json) (name : String) :
      IsSchema (.object [("enum", .array [value]), ("type", .string name)])
  /-- An object with values of one type under any keys. -/
  | record {schema : Json} (h : IsSchema schema) :
      IsSchema (.object [("type", .string "object"), ("additionalProperties", schema)])
  | array {schema : Json} (h : IsSchema schema) :
      IsSchema (.object [("type", .string "array"), ("items", schema)])
  /-- A list of anything. -/
  | anyArray : IsSchema (.object [("type", .string "array"), ("items", .object [])])
  | anyOf {schemas : List Json} (h : ∀ schema ∈ schemas, IsSchema schema) :
      IsSchema (.object [("anyOf", .array schemas)])
  | allOf {schemas : List Json} (h : ∀ schema ∈ schemas, IsSchema schema) :
      IsSchema (.object [("allOf", .array schemas)])
  /-- An object with fixed properties and no others. -/
  | closed {properties : List (String × Json)} (h : ∀ p ∈ properties, IsSchema p.2) :
      IsSchema (.object [("type", .string "object"), ("properties", .object properties),
        ("additionalProperties", .bool false)])

/-- The words of the grammar. -/
def vocabulary : List String := [
  "$ref", "type", "enum", "additionalProperties", "items", "anyOf", "allOf", "properties",
  "any", "null", "boolean", "integer", "number", "string", "array", "object"]

/-- An object that says something. -/
def isFilled : Json → Bool
  | .object (_ :: _) => true
  | _ => false

/-- The schemas directly below a schema: those of additional properties and items, unless anything
or nothing is allowed, the alternatives and parts, and those of the properties. -/
def subschemas (schema : Json) : List Json :=
  (["additionalProperties", "items"].filterMap schema.member?).filter isFilled ++
    (["anyOf", "allOf"].filterMap schema.member?).flatMap (fun v => v.items?.getD []) ++
    ((schema.member? "properties").bind Json.members?).elim [] Table.values

/-- A value stands at any depth of a schema where a schema is expected. -/
def IsPosition (schema v : Json) : Prop :=
  Relation.ReflTransGen (fun x y => y ∈ subschemas x) schema v

lemma IsSchema.isFilled {v : Json} (h : IsSchema v) : Schema.isFilled v = true := by
  cases h <;> rfl

/-- What is at the place of a type in a schema is a text. -/
lemma IsSchema.member?_type {v : Json} (h : IsSchema v) :
    v.member? "type" = none ∨ ∃ name, v.member? "type" = some (.string name) := by
  cases h with
  | reference _ | anyOf _ | allOf _ => exact .inl rfl
  | _ => exact .inr ⟨_, rfl⟩

lemma IsSchema.member?_oneOf {v : Json} (h : IsSchema v) : v.member? "oneOf" = none := by
  cases h <;> rfl

/-! ### What is directly below a schema -/

lemma subschemas_additionalProperties (type schema : Json) :
    subschemas (.object [("type", type), ("additionalProperties", schema)]) =
      [schema].filter Schema.isFilled := by
  have h : subschemas (.object [("type", type), ("additionalProperties", schema)]) =
    [schema].filter Schema.isFilled ++ [] ++ [] := rfl
  simpa using h

lemma subschemas_items (type schema : Json) :
    subschemas (.object [("type", type), ("items", schema)]) =
      [schema].filter Schema.isFilled := by
  have h : subschemas (.object [("type", type), ("items", schema)]) =
    [schema].filter Schema.isFilled ++ [] ++ [] := rfl
  simpa using h

lemma subschemas_anyOf (schemas : List Json) :
    subschemas (.object [("anyOf", .array schemas)]) = schemas := by
  have h : subschemas (.object [("anyOf", .array schemas)]) = [] ++ (schemas ++ []) ++ [] := rfl
  simpa using h

lemma subschemas_allOf (schemas : List Json) :
    subschemas (.object [("allOf", .array schemas)]) = schemas := by
  have h : subschemas (.object [("allOf", .array schemas)]) = [] ++ (schemas ++ []) ++ [] := rfl
  simpa using h

lemma subschemas_closedObject (properties : List (String × Json)) :
    subschemas (closedObject properties) = Table.values properties := rfl

/-- What is directly below a schema is a schema. -/
lemma IsSchema.of_mem_subschemas {v w : Json} (h : IsSchema v) (hw : w ∈ subschemas v) :
    IsSchema w := by
  cases h with
  | reference _ | type _ | literal _ _ | anyArray => cases hw
  | record h =>
    rw [subschemas_additionalProperties] at hw
    obtain rfl := List.mem_singleton.mp (List.mem_of_mem_filter hw)
    exact h
  | array h =>
    rw [subschemas_items] at hw
    obtain rfl := List.mem_singleton.mp (List.mem_of_mem_filter hw)
    exact h
  | anyOf h =>
    rw [subschemas_anyOf] at hw
    exact h w hw
  | allOf h =>
    rw [subschemas_allOf] at hw
    exact h w hw
  | closed h =>
    obtain ⟨p, hp, rfl⟩ := List.mem_map.mp hw
    exact h p hp

/-- Every schema at any depth of one is a schema. -/
theorem IsSchema.of_isPosition {v w : Json} (h : IsSchema v) (hw : IsPosition v w) :
    IsSchema w := by
  induction hw with
  | refl => exact h
  | tail _ hstep ih => exact ih.of_mem_subschemas hstep

/-! ### Schemas of nodes -/

lemma ofNodes_eq_map (nodes : List TypeNode) : ofNodes nodes = nodes.map ofNode := by
  induction nodes with
  | nil => rfl
  | cons n rest ih => rw [ofNodes, ih, List.map_cons]

lemma ofFields_eq_map (fields : List (String × TypeNode)) :
    ofFields fields = fields.map fun e => (e.1, ofNode e.2) := by
  induction fields with
  | nil => rfl
  | cons e rest ih => rw [ofFields, ih, List.map_cons]

/-- A node has the schema of the node it stands for. -/
lemma ofNode_unwrapped (n : TypeNode) : ofNode n.unwrapped = ofNode n := by
  fun_induction TypeNode.unwrapped n with
  | case1 kind child rest ih => rw [ih, ofNode]
  | case2 n h => rfl

lemma literalType_cons (value : Json) (child : TypeNode) (rest : List TypeNode) :
    literalType value (child :: rest) = match child with
      | .named name => .string name
      | _ => ((ofNode child).member? "type").getD (.string (kindName value)) := by
  cases child <;> rw [literalType] <;> simp

/-- Where the type of a literal is from. -/
lemma literalType_cases (value : Json) (children : List TypeNode) :
    literalType value children = .string (kindName value) ∨
      (∃ name, .named name ∈ children ∧ literalType value children = .string name) ∨
      ∃ child ∈ children, (ofNode child).member? "type" = some (literalType value children) := by
  cases children with
  | nil => exact .inl (by rw [literalType])
  | cons child rest =>
    rw [literalType_cons]
    split
    · exact .inr (.inl ⟨_, List.mem_cons_self, rfl⟩)
    · cases htype : (ofNode child).member? "type" with
      | none => exact .inl rfl
      | some type => exact .inr (.inr ⟨child, List.mem_cons_self, htype⟩)

/-- The type of a literal is a text when the schemas of its children are schemas. -/
lemma exists_literalType_eq (value : Json) {children : List TypeNode}
    (h : ∀ child ∈ children, IsSchema (ofNode child)) :
    ∃ name, literalType value children = .string name := by
  rcases literalType_cases value children with hkind | ⟨name, _, hname⟩ | ⟨child, hmem, htype⟩
  · exact ⟨_, hkind⟩
  · exact ⟨name, hname⟩
  · rcases (h child hmem).member?_type with hnone | ⟨name, hname⟩
    · rw [hnone] at htype
      cases htype
    · exact ⟨name, Option.some.inj (htype.symm.trans hname)⟩

/-- The schema of a node is a schema. -/
theorem isSchema_ofNode (n : TypeNode) : IsSchema (ofNode n) := by
  induction n using TypeNode.induction_parts with
  | h n ih =>
    cases n with
    | named name =>
      rw [ofNode]
      cases href : TypeNode.isReferenceName name with
      | true => exact .reference href
      | false => exact .type href
    | literal value children =>
      obtain ⟨name, hname⟩ : ∃ name, literalType value children = .string name :=
        exists_literalType_eq value ih
      rw [ofNode, hname]
      exact .literal value name
    | record children =>
      cases children with
      | nil =>
        rw [ofNode]
        exact .record (.type rfl)
      | cons child rest =>
        rw [ofNode]
        exact .record (ih child List.mem_cons_self)
    | array children =>
      cases children with
      | nil =>
        rw [ofNode]
        exact .anyArray
      | cons child rest =>
        rw [ofNode]
        exact .array (ih child List.mem_cons_self)
    | union children =>
      rw [ofNode, ofNodes_eq_map]
      exact .anyOf (List.forall_mem_map.mpr ih)
    | intersection children =>
      rw [ofNode, ofNodes_eq_map]
      exact .allOf (List.forall_mem_map.mpr ih)
    | wrapped kind children =>
      cases children with
      | nil =>
        rw [ofNode]
        exact .closed (List.forall_mem_nil _)
      | cons child rest =>
        rw [ofNode]
        exact ih child List.mem_cons_self
    | composite fields =>
      rw [ofNode, ofFields_eq_map]
      refine .closed (List.forall_mem_map.mpr fun e he => ?_)
      exact ih e.2 (List.mem_map_of_mem he)

/-! ### What a schema is made of -/

/-- What is directly below the schema of a node that is no wrapper is the schema of anything or of a
node that it is made of. -/
lemma mem_subschemas_ofNode {n : TypeNode}
    (hn : ∀ kind child rest, n ≠ .wrapped kind (child :: rest)) {w : Json}
    (hw : w ∈ subschemas (ofNode n)) : w = any ∨ ∃ m ∈ n.shown, w = ofNode m := by
  cases n with
  | named name =>
    rw [ofNode] at hw
    split at hw <;> cases hw
  | literal value children =>
    rw [ofNode] at hw
    cases hw
  | record children =>
    cases children with
    | nil =>
      rw [ofNode, subschemas_additionalProperties] at hw
      exact .inl (List.mem_singleton.mp (List.mem_of_mem_filter hw))
    | cons child rest =>
      rw [ofNode, subschemas_additionalProperties] at hw
      have hchild := List.mem_singleton.mp (List.mem_of_mem_filter hw)
      exact .inr ⟨child, List.mem_cons_self, hchild⟩
  | array children =>
    cases children with
    | nil =>
      rw [ofNode] at hw
      cases hw
    | cons child rest =>
      rw [ofNode, subschemas_items] at hw
      have hchild := List.mem_singleton.mp (List.mem_of_mem_filter hw)
      exact .inr ⟨child, List.mem_cons_self, hchild⟩
  | union children =>
    rw [ofNode, subschemas_anyOf, ofNodes_eq_map] at hw
    obtain ⟨m, hm, rfl⟩ := List.mem_map.mp hw
    exact .inr ⟨m, hm, rfl⟩
  | intersection children =>
    rw [ofNode, subschemas_allOf, ofNodes_eq_map] at hw
    obtain ⟨m, hm, rfl⟩ := List.mem_map.mp hw
    exact .inr ⟨m, hm, rfl⟩
  | wrapped kind children =>
    cases children with
    | nil =>
      rw [ofNode] at hw
      cases hw
    | cons child rest => exact absurd rfl (hn kind child rest)
  | composite fields =>
    rw [ofNode, subschemas_closedObject, ofFields_eq_map] at hw
    obtain ⟨p, hp, rfl⟩ := List.mem_map.mp hw
    obtain ⟨e, he, rfl⟩ := List.mem_map.mp hp
    exact .inr ⟨e.2, List.mem_map_of_mem he, rfl⟩

/-- The schema of a node that another is made of is the same, below a wrapper, or directly below. -/
lemma ofNode_of_mem_shown {n m : TypeNode} (hm : m ∈ n.shown) :
    ofNode m = ofNode n ∨ ofNode m ∈ subschemas (ofNode n) := by
  have hfilled : ∀ k : TypeNode, ofNode k ∈ [ofNode k].filter Schema.isFilled := fun k =>
    List.mem_filter.mpr ⟨List.mem_singleton_self _, (isSchema_ofNode k).isFilled⟩
  cases n with
  | named name => cases hm
  | literal value children => cases hm
  | record children =>
    cases children with
    | nil => cases hm
    | cons child rest =>
      obtain rfl := List.mem_singleton.mp hm
      rw [ofNode, subschemas_additionalProperties]
      exact .inr (hfilled _)
  | array children =>
    cases children with
    | nil => cases hm
    | cons child rest =>
      obtain rfl := List.mem_singleton.mp hm
      rw [ofNode, subschemas_items]
      exact .inr (hfilled _)
  | wrapped kind children =>
    cases children with
    | nil => cases hm
    | cons child rest =>
      obtain rfl := List.mem_singleton.mp hm
      exact .inl (by rw [ofNode])
  | union children =>
    rw [ofNode, subschemas_anyOf, ofNodes_eq_map]
    exact .inr (List.mem_map_of_mem hm)
  | intersection children =>
    rw [ofNode, subschemas_allOf, ofNodes_eq_map]
    exact .inr (List.mem_map_of_mem hm)
  | composite fields =>
    obtain ⟨e, he, rfl⟩ := List.mem_map.mp hm
    have hproperty : (e.1, ofNode e.2) ∈ fields.map fun e => (e.1, ofNode e.2) :=
      List.mem_map_of_mem he
    rw [ofNode, subschemas_closedObject, ofFields_eq_map]
    exact .inr (List.mem_map_of_mem hproperty)

/-- Every schema at any depth of that of a node is the schema of anything or of a node that it is
made of, which is no wrapper of another. -/
theorem exists_source_of_isPosition {n : TypeNode} {w : Json} (hw : IsPosition (ofNode n) w) :
    w = any ∨ ∃ m, n.Shows m ∧ (∀ kind child rest, m ≠ .wrapped kind (child :: rest)) ∧
      w = ofNode m := by
  induction hw with
  | refl =>
    refine .inr ⟨n.unwrapped, n.shows_unwrapped, n.unwrapped_ne_wrapped, ?_⟩
    exact (ofNode_unwrapped n).symm
  | tail _ hstep ih =>
    rcases ih with rfl | ⟨m, hm, hne, rfl⟩
    · cases hstep
    · rcases mem_subschemas_ofNode hne hstep with rfl | ⟨k, hk, rfl⟩
      · exact .inl rfl
      · refine .inr ⟨k.unwrapped, ?_, k.unwrapped_ne_wrapped, (ofNode_unwrapped k).symm⟩
        exact (Relation.ReflTransGen.tail hm hk).trans k.shows_unwrapped

/-- The schema of every node that a schema is made of stands in it. -/
theorem isPosition_of_shows {n m : TypeNode} (h : n.Shows m) :
    IsPosition (ofNode n) (ofNode m) := by
  induction h with
  | refl => exact .refl
  | tail _ hstep ih =>
    rcases ofNode_of_mem_shown hstep with hsame | hbelow
    · rw [hsame]
      exact ih
    · exact ih.tail hbelow

/-- The members by which a schema tells what it is the schema of. -/
inductive Keyword where
  | ref
  | enum
  | properties

def Keyword.key : Keyword → String
  | .ref => "$ref"
  | .enum => "enum"
  | .properties => "properties"

/-- The nodes that have such a member in their schema, and its value. -/
inductive Marks : TypeNode → Keyword → Json → Prop where
  | reference {name : String} (h : TypeNode.isReferenceName name = true) :
      Marks (.named name) .ref (.string name)
  | literal (value : Json) (children : List TypeNode) :
      Marks (.literal value children) .enum (.array [value])
  | composite (fields : List (String × TypeNode)) :
      Marks (.composite fields) .properties (.object (ofFields fields))
  | wrapped (kind : String) : Marks (.wrapped kind []) .properties (.object [])

lemma marks_of_member? {n : TypeNode}
    (hn : ∀ kind child rest, n ≠ .wrapped kind (child :: rest)) {keyword : Keyword} {v : Json}
    (h : (ofNode n).member? keyword.key = some v) : Marks n keyword v := by
  cases n with
  | named name =>
    rw [ofNode] at h
    split at h
    · rename_i href
      cases keyword <;> cases h
      exact .reference href
    · cases keyword <;> cases h
  | literal value children =>
    rw [ofNode] at h
    cases keyword <;> cases h
    exact .literal value children
  | composite fields =>
    rw [ofNode] at h
    cases keyword <;> cases h
    exact .composite fields
  | wrapped kind children =>
    cases children with
    | nil =>
      rw [ofNode] at h
      cases keyword <;> cases h
      exact .wrapped kind
    | cons child rest => exact absurd rfl (hn kind child rest)
  | record children | array children =>
    cases children <;> rw [ofNode] at h <;> cases keyword <;> cases h
  | union children | intersection children =>
    rw [ofNode] at h
    cases keyword <;> cases h

/-- A schema in that of a node has such a member when it is that of a node that has it. -/
lemma exists_marks_of_isPosition {n : TypeNode} {w : Json} (hw : IsPosition (ofNode n) w)
    (keyword : Keyword) {v : Json} (h : w.member? keyword.key = some v) :
    ∃ m, n.Shows m ∧ Marks m keyword v := by
  rcases exists_source_of_isPosition hw with rfl | ⟨m, hm, hne, rfl⟩
  · cases keyword <;> cases h
  · exact ⟨m, hm, marks_of_member? hne h⟩

/-- The objects with fixed properties in a schema are those of the composites that it is made of,
with a property for each field, and of the wrappers of nothing. -/
lemma isPosition_closedObject_iff {n : TypeNode} {properties : List (String × Json)} :
    IsPosition (ofNode n) (closedObject properties) ↔
      (∃ fields, n.Shows (.composite fields) ∧
        properties = fields.map fun e => (e.1, ofNode e.2)) ∨
      (∃ kind, n.Shows (.wrapped kind [])) ∧ properties = [] := by
  constructor
  · intro h
    obtain ⟨m, hm, hmarks⟩ := exists_marks_of_isPosition h .properties rfl
    cases hmarks with
    | composite fields => exact .inl ⟨fields, hm, ofFields_eq_map fields⟩
    | wrapped kind => exact .inr ⟨⟨kind, hm⟩, rfl⟩
  · rintro (⟨fields, hshows, rfl⟩ | ⟨⟨kind, hshows⟩, rfl⟩)
    · have hschema : ofNode (.composite fields) =
          closedObject (fields.map fun e => (e.1, ofNode e.2)) := by
        rw [ofNode, ofFields_eq_map]
      rw [← hschema]
      exact isPosition_of_shows hshows
    · have hschema : ofNode (.wrapped kind []) = closedObject [] := by rw [ofNode]
      rw [← hschema]
      exact isPosition_of_shows hshows

/-- The enumerations in a schema are those of the literals that it is made of. -/
lemma isPosition_enum_iff {n : TypeNode} {value : Json} :
    (∃ name, IsPosition (ofNode n)
      (.object [("enum", .array [value]), ("type", .string name)])) ↔
      ∃ children, n.Shows (.literal value children) := by
  constructor
  · rintro ⟨name, h⟩
    obtain ⟨m, hm, hmarks⟩ := exists_marks_of_isPosition h .enum rfl
    cases hmarks with
    | literal _ children => exact ⟨children, hm⟩
  · rintro ⟨children, hshows⟩
    obtain ⟨name, hname⟩ : ∃ name, literalType value children = .string name :=
      exists_literalType_eq value fun child _ => isSchema_ofNode child
    have hschema : ofNode (.literal value children) =
        .object [("enum", .array [value]), ("type", .string name)] := by
      rw [ofNode, hname]
    refine ⟨name, ?_⟩
    rw [← hschema]
    exact isPosition_of_shows hshows

/-- The references in a schema are those that it is made of. -/
lemma isPosition_ref_iff {n : TypeNode} {name : String} :
    IsPosition (ofNode n) (.object [("$ref", .string name)]) ↔
      TypeNode.isReferenceName name = true ∧ n.Shows (.named name) := by
  constructor
  · intro h
    obtain ⟨m, hm, hmarks⟩ := exists_marks_of_isPosition h .ref rfl
    cases hmarks with
    | reference href => exact ⟨href, hm⟩
  · rintro ⟨href, hshows⟩
    have hschema : ofNode (.named name) = .object [("$ref", .string name)] := by
      rw [ofNode, if_pos href]
    rw [← hschema]
    exact isPosition_of_shows hshows

end Schema

end ApiContract
