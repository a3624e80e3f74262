import ApiContract.Proofs.OpenApi.SchemaGrammar

/-!
# The words of schemas

Nothing of the form of nodes is left in a schema: its words are those of the grammar or were given
as the name of a field or type or in a literal value (`onlyMentions_ofNode`), and the kinds of
wrappers do not matter (`ofNode_renameKinds`). Both are shown one layer at a time: what is said of
the schemas of the nodes directly below a node is said of its own.

With the grammar and what a schema is made of, this is all that the schema of a node, or of none,
says (`describes_ofNode?`).
-/

namespace ApiContract

/-! ### Words -/

namespace Json

/-- The words that a value has itself: a text is one, and so are the keys of an object. -/
def words : Json → List String
  | .string s => [s]
  | .object members => Table.keys members
  | _ => []

/-- A word stands somewhere in a value. -/
def Mentions (v : Json) (word : String) : Prop :=
  ∃ w, Relation.ReflTransGen (fun x y => y ∈ parts x) v w ∧ word ∈ w.words

/-- All words in a value have a property. -/
def OnlyMentions (P : String → Prop) (v : Json) : Prop :=
  Throughout parts (fun w => ∀ word ∈ w.words, P word) v

variable {P : String → Prop}

lemma onlyMentions_iff {v : Json} :
    v.OnlyMentions P ↔ (∀ word ∈ v.words, P word) ∧ ∀ w ∈ v.parts, w.OnlyMentions P :=
  throughout_iff

lemma onlyMentions_mentioned (v : Json) : v.OnlyMentions v.Mentions :=
  fun w hw _ hword => ⟨w, hw, hword⟩

lemma OnlyMentions.mono {Q : String → Prop} {v : Json} (h : v.OnlyMentions P)
    (himp : ∀ word, P word → Q word) : v.OnlyMentions Q :=
  fun w hw word hword => himp word (h w hw word hword)

lemma OnlyMentions.of_mentions {v : Json} (h : v.OnlyMentions P) {word : String}
    (hword : v.Mentions word) : P word := by
  obtain ⟨w, hw, hmem⟩ := hword
  exact h w hw word hmem

lemma OnlyMentions.of_mem_parts {v w : Json} (h : v.OnlyMentions P) (hw : w ∈ v.parts) :
    w.OnlyMentions P :=
  (onlyMentions_iff.mp h).2 w hw

lemma OnlyMentions.of_member? {v w : Json} (h : v.OnlyMentions P) {key : String}
    (hw : v.member? key = some w) : w.OnlyMentions P := by
  cases v with
  | object members =>
    have hmem : (key, w) ∈ members := Table.mem_of_find?_eq_some hw
    exact h.of_mem_parts (List.mem_map_of_mem hmem)
  | _ => cases hw

lemma onlyMentions_string {s : String} (h : P s) : OnlyMentions P (.string s) :=
  throughout_of_below_eq_nil rfl (List.forall_mem_singleton.mpr h)

lemma onlyMentions_bool (b : Bool) : OnlyMentions P (.bool b) :=
  throughout_of_below_eq_nil rfl (List.forall_mem_nil _)

lemma onlyMentions_array {items : List Json} (h : ∀ v ∈ items, v.OnlyMentions P) :
    OnlyMentions P (.array items) :=
  onlyMentions_iff.mpr ⟨List.forall_mem_nil _, h⟩

lemma onlyMentions_object {members : List (String × Json)}
    (h : ∀ m ∈ members, P m.1 ∧ m.2.OnlyMentions P) : OnlyMentions P (.object members) := by
  refine onlyMentions_iff.mpr ⟨?_, ?_⟩
  · exact List.forall_mem_map.mpr fun m hm => (h m hm).1
  · exact List.forall_mem_map.mpr fun m hm => (h m hm).2

lemma onlyMentions_cons {key : String} {v : Json} {members : List (String × Json)} (hkey : P key)
    (hv : v.OnlyMentions P) (h : OnlyMentions P (.object members)) :
    OnlyMentions P (.object ((key, v) :: members)) := by
  obtain ⟨hkeys, hparts⟩ := onlyMentions_iff.mp h
  refine onlyMentions_iff.mpr ⟨?_, ?_⟩
  · exact List.forall_mem_cons.mpr ⟨hkey, hkeys⟩
  · exact List.forall_mem_cons.mpr ⟨hv, hparts⟩

lemma onlyMentions_singleton {key : String} {v : Json} (hkey : P key) (hv : v.OnlyMentions P) :
    OnlyMentions P (.object [(key, v)]) :=
  onlyMentions_cons hkey hv (onlyMentions_object (List.forall_mem_nil _))

end Json

/-! ### Words of a node -/

namespace TypeNode

/-- A node is another or stands at any depth below it. -/
def IsWithin (n m : TypeNode) : Prop := Relation.ReflTransGen (fun x y => y ∈ parts x) n m

/-- A node itself gives a word: it is the name of a type, or has the word as the name of a field or
in its literal value. -/
def Gives (word : String) : TypeNode → Prop
  | .named name => word = name
  | .literal value _ => value.Mentions word
  | .composite fields => word ∈ Table.keys fields
  | _ => False

/-- A node gives a word at some depth. -/
def Supplies (n : TypeNode) (word : String) : Prop := ∃ m, n.IsWithin m ∧ m.Gives word

lemma Supplies.of_mem_parts {n m : TypeNode} (hm : m ∈ n.parts) {word : String}
    (h : m.Supplies word) : n.Supplies word := by
  obtain ⟨k, hk, hword⟩ := h
  exact ⟨k, .head hm hk, hword⟩

/-! ### Other kinds of wrappers -/

mutual

/-- A node with the kinds of all wrappers in it changed. -/
def renameKinds (f : String → String) : TypeNode → TypeNode
  | .named name => .named name
  | .literal value children => .literal value (renameItems f children)
  | .record children => .record (renameItems f children)
  | .array children => .array (renameItems f children)
  | .union children => .union (renameItems f children)
  | .intersection children => .intersection (renameItems f children)
  | .wrapped kind children => .wrapped (f kind) (renameItems f children)
  | .composite fields => .composite (renameFields f fields)

/-- Nodes with the kinds of all wrappers in them changed. -/
def renameItems (f : String → String) : List TypeNode → List TypeNode
  | [] => []
  | n :: rest => renameKinds f n :: renameItems f rest

/-- Fields with the kinds of all wrappers in them changed. -/
def renameFields (f : String → String) : List (String × TypeNode) → List (String × TypeNode)
  | [] => []
  | (name, n) :: rest => (name, renameKinds f n) :: renameFields f rest

end

end TypeNode

namespace Schema

/-! ### Words of a schema -/

lemma kindName_mem_vocabulary (v : Json) : kindName v ∈ vocabulary := by
  cases v with
  | number n => cases n <;> simp [kindName, vocabulary]
  | _ => simp [kindName, vocabulary]

section Words

variable {P : String → Prop}

/-- The type of a literal has words of the grammar and of what is below the literal. -/
lemma onlyMentions_literalType (value : Json) {children : List TypeNode}
    (hvocabulary : ∀ word ∈ vocabulary, P word)
    (hgiven : ∀ child ∈ children, ∀ word, child.Gives word → P word)
    (hchildren : ∀ child ∈ children, (ofNode child).OnlyMentions P) :
    (literalType value children).OnlyMentions P := by
  rcases literalType_cases value children with hkind | ⟨name, hmem, hname⟩ | ⟨child, hmem, htype⟩
  · rw [hkind]
    apply Json.onlyMentions_string
    exact hvocabulary _ (kindName_mem_vocabulary value)
  · rw [hname]
    apply Json.onlyMentions_string
    exact hgiven (.named name) hmem name rfl
  · exact (hchildren child hmem).of_member? htype

lemma onlyMentions_closedObject (hvocabulary : ∀ word ∈ vocabulary, P word)
    {properties : List (String × Json)} (h : ∀ p ∈ properties, P p.1 ∧ p.2.OnlyMentions P) :
    (closedObject properties).OnlyMentions P := by
  apply Json.onlyMentions_cons (hvocabulary "type" (by decide))
  · exact Json.onlyMentions_string (hvocabulary "object" (by decide))
  apply Json.onlyMentions_cons (hvocabulary "properties" (by decide))
  · exact Json.onlyMentions_object h
  apply Json.onlyMentions_singleton (hvocabulary "additionalProperties" (by decide))
  exact Json.onlyMentions_bool false

/-- The schema of a node has words of the grammar, words that the node itself or a node directly
below gives, and the words in the schemas of the nodes directly below. -/
lemma onlyMentions_of_parts {n : TypeNode} (hvocabulary : ∀ word ∈ vocabulary, P word)
    (hself : ∀ word, n.Gives word → P word)
    (hgiven : ∀ m ∈ n.parts, ∀ word, m.Gives word → P word)
    (hparts : ∀ m ∈ n.parts, (ofNode m).OnlyMentions P) : (ofNode n).OnlyMentions P := by
  have htype : P "type" := hvocabulary "type" (by decide)
  -- The member that names the form of a list or a map comes before one for what is in it.
  have hform : ∀ form ∈ vocabulary, ∀ key ∈ vocabulary, ∀ schema : Json, schema.OnlyMentions P →
      (Json.object [("type", .string form), (key, schema)]).OnlyMentions P := by
    intro form hform key hkey schema hschema
    apply Json.onlyMentions_cons htype
    · exact Json.onlyMentions_string (hvocabulary form hform)
    · exact Json.onlyMentions_singleton (hvocabulary key hkey) hschema
  have hlist : ∀ key ∈ vocabulary, ∀ children : List TypeNode,
      (∀ m ∈ children, (ofNode m).OnlyMentions P) →
      (Json.object [(key, .array (ofNodes children))]).OnlyMentions P := by
    intro key hkey children hchildren
    apply Json.onlyMentions_singleton (hvocabulary key hkey)
    apply Json.onlyMentions_array
    rw [ofNodes_eq_map]
    exact List.forall_mem_map.mpr hchildren
  cases n with
  | named name =>
    have hname : Json.OnlyMentions P (.string name) := Json.onlyMentions_string (hself name rfl)
    rw [ofNode]
    split
    · exact Json.onlyMentions_singleton (hvocabulary "$ref" (by decide)) hname
    · exact Json.onlyMentions_singleton htype hname
  | literal value children =>
    have hvalue : value.OnlyMentions P := (Json.onlyMentions_mentioned value).mono hself
    rw [ofNode]
    apply Json.onlyMentions_cons (hvocabulary "enum" (by decide))
    · exact Json.onlyMentions_array (List.forall_mem_singleton.mpr hvalue)
    · apply Json.onlyMentions_singleton htype
      exact onlyMentions_literalType value hvocabulary hgiven hparts
  | record children =>
    cases children with
    | nil =>
      have hany : any.OnlyMentions P :=
        Json.onlyMentions_singleton htype (Json.onlyMentions_string (hvocabulary "any" (by decide)))
      rw [ofNode]
      exact hform "object" (by decide) "additionalProperties" (by decide) any hany
    | cons child rest =>
      have hchild : (ofNode child).OnlyMentions P := hparts child List.mem_cons_self
      rw [ofNode]
      exact hform "object" (by decide) "additionalProperties" (by decide) _ hchild
  | array children =>
    cases children with
    | nil =>
      rw [ofNode]
      apply hform "array" (by decide) "items" (by decide)
      exact Json.onlyMentions_object (List.forall_mem_nil _)
    | cons child rest =>
      have hchild : (ofNode child).OnlyMentions P := hparts child List.mem_cons_self
      rw [ofNode]
      exact hform "array" (by decide) "items" (by decide) _ hchild
  | union children =>
    rw [ofNode]
    exact hlist "anyOf" (by decide) children hparts
  | intersection children =>
    rw [ofNode]
    exact hlist "allOf" (by decide) children hparts
  | wrapped kind children =>
    cases children with
    | nil =>
      rw [ofNode]
      exact onlyMentions_closedObject hvocabulary (List.forall_mem_nil _)
    | cons child rest =>
      rw [ofNode]
      exact hparts child List.mem_cons_self
  | composite fields =>
    rw [ofNode, ofFields_eq_map]
    apply onlyMentions_closedObject hvocabulary
    refine List.forall_mem_map.mpr fun e he => ⟨?_, ?_⟩
    · exact hself e.1 (List.mem_map_of_mem he)
    · exact hparts e.2 (List.mem_map_of_mem he)

end Words

/-- The words in the schema of a node are words of the grammar or given by the node. -/
theorem onlyMentions_ofNode (n : TypeNode) :
    (ofNode n).OnlyMentions fun word => word ∈ vocabulary ∨ n.Supplies word := by
  induction n using TypeNode.induction_parts with
  | h n ih =>
    apply onlyMentions_of_parts
    · exact fun word hword => .inl hword
    · exact fun word hword => .inr ⟨n, .refl, hword⟩
    · exact fun m hm word hword => .inr ⟨m, .single hm, hword⟩
    · intro m hm
      refine (ih m hm).mono fun word hword => ?_
      exact hword.imp_right (.of_mem_parts hm)

/-! ### Kinds of wrappers -/

lemma literalType_renameItems (f : String → String) (value : Json) (children : List TypeNode)
    (h : ∀ child ∈ children, ofNode (child.renameKinds f) = ofNode child) :
    literalType value (TypeNode.renameItems f children) = literalType value children := by
  cases children with
  | nil => rfl
  | cons child rest =>
    have hchild := h child List.mem_cons_self
    rw [TypeNode.renameItems, literalType_cons, literalType_cons, hchild]
    cases child <;> rfl

lemma ofNodes_renameItems (f : String → String) (nodes : List TypeNode)
    (h : ∀ n ∈ nodes, ofNode (n.renameKinds f) = ofNode n) :
    ofNodes (TypeNode.renameItems f nodes) = ofNodes nodes := by
  induction nodes with
  | nil => rfl
  | cons n rest ih =>
    obtain ⟨hn, hrest⟩ := List.forall_mem_cons.mp h
    rw [TypeNode.renameItems, ofNodes, ofNodes, hn, ih hrest]

lemma ofFields_renameFields (f : String → String) (fields : List (String × TypeNode))
    (h : ∀ e ∈ fields, ofNode (e.2.renameKinds f) = ofNode e.2) :
    ofFields (TypeNode.renameFields f fields) = ofFields fields := by
  induction fields with
  | nil => rfl
  | cons e rest ih =>
    obtain ⟨he, hrest⟩ := List.forall_mem_cons.mp h
    rw [TypeNode.renameFields, ofFields, ofFields, he, ih hrest]

/-- The kinds of wrappers do not matter to the schema of a node. -/
theorem ofNode_renameKinds (f : String → String) (n : TypeNode) :
    ofNode (n.renameKinds f) = ofNode n := by
  induction n using TypeNode.induction_parts with
  | h n ih =>
    cases n with
    | named name => rw [TypeNode.renameKinds]
    | literal value children =>
      rw [TypeNode.renameKinds, ofNode, ofNode, literalType_renameItems f value children ih]
    | record children =>
      cases children with
      | nil => rw [TypeNode.renameKinds, TypeNode.renameItems]
      | cons child rest =>
        rw [TypeNode.renameKinds, TypeNode.renameItems, ofNode, ofNode, ih child List.mem_cons_self]
    | array children =>
      cases children with
      | nil => rw [TypeNode.renameKinds, TypeNode.renameItems]
      | cons child rest =>
        rw [TypeNode.renameKinds, TypeNode.renameItems, ofNode, ofNode, ih child List.mem_cons_self]
    | union children =>
      rw [TypeNode.renameKinds, ofNode, ofNode, ofNodes_renameItems f children ih]
    | intersection children =>
      rw [TypeNode.renameKinds, ofNode, ofNode, ofNodes_renameItems f children ih]
    | wrapped kind children =>
      cases children with
      | nil => rw [TypeNode.renameKinds, TypeNode.renameItems, ofNode, ofNode]
      | cons child rest =>
        rw [TypeNode.renameKinds, TypeNode.renameItems, ofNode, ofNode, ih child List.mem_cons_self]
    | composite fields =>
      have hfields : ∀ e ∈ fields, ofNode (e.2.renameKinds f) = ofNode e.2 :=
        fun e he => ih e.2 (List.mem_map_of_mem he)
      rw [TypeNode.renameKinds, ofNode, ofNode, ofFields_renameFields f fields hfields]

/-! ### The schema of a node or of none -/

/-- A value is a schema that says of a node, or of none, what the node says and nothing of the form
in which it says that. -/
structure Describes (node : Option TypeNode) (schema : Json) : Prop where
  isSchema : IsSchema schema
  /-- The objects with fixed properties are those of the composites that the schema is made of, with
  their fields in order, and those of wrappers of nothing. -/
  closed : ∀ properties, IsPosition schema (closedObject properties) ↔
    ∃ n ∈ node, (∃ fields, n.Shows (.composite fields) ∧
        properties = fields.map fun e => (e.1, ofNode e.2)) ∨
      (∃ kind, n.Shows (.wrapped kind [])) ∧ properties = []
  /-- The enumerations are those of the literals. -/
  enumeration : ∀ value, (∃ name, IsPosition schema
      (.object [("enum", .array [value]), ("type", .string name)])) ↔
    ∃ n ∈ node, ∃ children, n.Shows (.literal value children)
  reference : ∀ name, IsPosition schema (.object [("$ref", .string name)]) ↔
    ∃ n ∈ node, TypeNode.isReferenceName name = true ∧ n.Shows (.named name)
  oneOf : ∀ v, IsPosition schema v → v.member? "oneOf" = none
  /-- A word that is not of the grammar, the kind of a wrapper as well, is there only as the name of
  a type or field or from a literal value. -/
  words : ∀ word, schema.Mentions word → word ∈ vocabulary ∨ ∃ n ∈ node, n.Supplies word
  /-- The words with which nodes are written are not of the grammar. -/
  tags : ∀ word ∈ ["kind", "children", "value"], schema.Mentions word →
    ∃ n ∈ node, n.Supplies word
  /-- With other kinds of wrappers the schema is the same. -/
  kinds : ∀ f, ofNode? (node.map (TypeNode.renameKinds f)) = schema

lemma not_mem_vocabulary {word : String} (h : word ∈ ["kind", "children", "value"]) :
    word ∉ vocabulary := by
  revert word
  decide

lemma describes_some (n : TypeNode) : Describes (some n) (ofNode n) := by
  have hwords : ∀ word, (ofNode n).Mentions word →
      word ∈ vocabulary ∨ ∃ m ∈ some n, m.Supplies word := by
    intro word hword
    rcases (onlyMentions_ofNode n).of_mentions hword with h | h
    · exact .inl h
    · exact .inr ⟨n, rfl, h⟩
  constructor
  case isSchema => exact isSchema_ofNode n
  case closed =>
    intro properties
    simp only [Option.mem_some_iff, exists_eq_left']
    exact isPosition_closedObject_iff
  case enumeration =>
    intro value
    simp only [Option.mem_some_iff, exists_eq_left']
    exact isPosition_enum_iff
  case reference =>
    intro name
    simp only [Option.mem_some_iff, exists_eq_left']
    exact isPosition_ref_iff
  case oneOf =>
    intro v h
    exact ((isSchema_ofNode n).of_isPosition h).member?_oneOf
  case words => exact hwords
  case tags =>
    intro word htag hword
    exact (hwords word hword).resolve_left (not_mem_vocabulary htag)
  case kinds => exact fun f => ofNode_renameKinds f n

lemma describes_none : Describes none any := by
  have hposition : ∀ {v}, IsPosition any v → v = any := by
    intro v h
    rcases h.cases_head with rfl | ⟨w, hw, _⟩
    · rfl
    · cases hw
  have hwords : any.OnlyMentions (· ∈ vocabulary) :=
    Json.onlyMentions_singleton (by decide) (Json.onlyMentions_string (by decide))
  constructor
  case isSchema => exact .type rfl
  case closed =>
    refine fun properties => iff_of_false (fun h => ?_) nofun
    have heq : closedObject properties = any := hposition h
    simp [closedObject, any, type] at heq
  case enumeration =>
    refine fun value => iff_of_false (fun ⟨name, h⟩ => ?_) nofun
    have heq : Json.object [("enum", .array [value]), ("type", .string name)] = any := hposition h
    simp [any, type] at heq
  case reference =>
    refine fun name => iff_of_false (fun h => ?_) nofun
    have heq : Json.object [("$ref", .string name)] = any := hposition h
    simp [any, type] at heq
  case oneOf =>
    intro v h
    rw [hposition h]
    rfl
  case words => exact fun word hword => .inl (hwords.of_mentions hword)
  case tags =>
    intro word htag hword
    exact absurd (hwords.of_mentions hword) (not_mem_vocabulary htag)
  case kinds => exact fun f => rfl

/-- The schema of a node, or of none, is in the grammar and describes the node. -/
theorem describes_ofNode? (node : Option TypeNode) : Describes node (ofNode? node) := by
  cases node with
  | none => exact describes_none
  | some n => exact describes_some n

end Schema

end ApiContract
