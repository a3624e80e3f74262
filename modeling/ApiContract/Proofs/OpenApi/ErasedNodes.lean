import ApiContract.Proofs.OpenApi.SchemaGrammar

/-!
# What the schema of a node does not show

A wrapper stands for its first child, and of the children of a record, an array or a literal only
the first is read. So a node can be erased: without these wrappers and children it has the same
schema, with one exception (`ofNode_erased_eq_iff`). A literal whose first child is a name has that
name as its type, a reference too; but a wrapper around a reference has a schema without a type, and
then the type is that of the value.

What is said for a whole node is said for one wrapper at one place of a node as well, the place
being given by the frames around it (`ofNode_fill_wrapped_eq_iff`). Both go up one layer at a time,
with what each layer shows of the schema below it and of the type in that schema.
-/

namespace ApiContract

namespace TypeNode

/-! ### Erasing -/

mutual

/-- A node with every wrapper replaced by the first child it stands for, and without the children of
records, arrays and literals that are not read. -/
def erased : TypeNode → TypeNode
  | .named name => .named name
  | .literal value children => .literal value (erasedFirst children)
  | .record children => .record (erasedFirst children)
  | .array children => .array (erasedFirst children)
  | .union children => .union (erasedAll children)
  | .intersection children => .intersection (erasedAll children)
  | .wrapped kind [] => .wrapped kind []
  | .wrapped _ (child :: _) => erased child
  | .composite fields => .composite (erasedFields fields)

/-- The first of some nodes, erased. -/
def erasedFirst : List TypeNode → List TypeNode
  | [] => []
  | child :: _ => [erased child]

/-- Nodes, each erased. -/
def erasedAll : List TypeNode → List TypeNode
  | [] => []
  | n :: rest => erased n :: erasedAll rest

/-- Fields, the node of each erased. -/
def erasedFields : List (String × TypeNode) → List (String × TypeNode)
  | [] => []
  | (name, n) :: rest => (name, erased n) :: erasedFields rest

end

lemma erasedAll_eq_map (nodes : List TypeNode) : erasedAll nodes = nodes.map erased := by
  induction nodes with
  | nil => rfl
  | cons n rest ih => rw [erasedAll, ih, List.map_cons]

lemma erasedFields_eq_map (fields : List (String × TypeNode)) :
    erasedFields fields = fields.map fun e => (e.1, erased e.2) := by
  induction fields with
  | nil => rfl
  | cons e rest ih => rw [erasedFields, ih, List.map_cons]

lemma erased_unwrapped (n : TypeNode) : n.unwrapped.erased = n.erased := by
  fun_induction unwrapped n with
  | case1 kind child rest ih => rw [ih, erased]
  | case2 n h => rfl

/-! ### Hidden references -/

/-- Whether a node is a literal whose first child is no reference but stands for one. -/
def hidesReference : TypeNode → Bool
  | .literal _ (child :: _) => child.unwrapped.isReference && !child.isReference
  | _ => false

def isLiteral : TypeNode → Bool
  | .literal _ _ => true
  | _ => false

/-- The nodes directly below a node that its schema is read off: those whose schemas it is made of,
and the first child of a literal if that stands for a literal, the type of which it has. -/
def readOff : TypeNode → List TypeNode
  | .literal _ (child :: _) => if child.unwrapped.isLiteral then [child] else []
  | n => n.shown

/-- No literal that the schema of a node is read off has a wrapper around a reference as its first
child. -/
def HidesNoReference (n : TypeNode) : Prop :=
  Throughout readOff (fun m => m.hidesReference = false) n

lemma hidesNoReference_iff {n : TypeNode} :
    n.HidesNoReference ↔ n.hidesReference = false ∧ ∀ m ∈ n.readOff, m.HidesNoReference :=
  throughout_iff

lemma isReference_unwrapped {n : TypeNode} (h : n.isReference = true) :
    n.unwrapped.isReference = true := by
  cases n with
  | named name => exact h
  | _ => cases h

/-! ### Places -/

/-- A node with a place left open directly below it. -/
inductive Frame where
  | literal (value : Json) (before after : List TypeNode)
  | record (before after : List TypeNode)
  | array (before after : List TypeNode)
  | union (before after : List TypeNode)
  | intersection (before after : List TypeNode)
  | wrapped (kind : String) (before after : List TypeNode)
  | composite (before : List (String × TypeNode)) (name : String)
      (after : List (String × TypeNode))

namespace Frame

/-- The node of a frame with a node at its place. -/
def fill : Frame → TypeNode → TypeNode
  | .literal value before after, n => .literal value (before ++ n :: after)
  | .record before after, n => .record (before ++ n :: after)
  | .array before after, n => .array (before ++ n :: after)
  | .union before after, n => .union (before ++ n :: after)
  | .intersection before after, n => .intersection (before ++ n :: after)
  | .wrapped kind before after, n => .wrapped kind (before ++ n :: after)
  | .composite before name after, n => .composite (before ++ (name, n) :: after)

/-- The value of a literal at whose first child the place is. -/
def literal? : Frame → Option Json
  | .literal value [] _ => some value
  | _ => none

/-- Whether the place is that of the child that a wrapper stands for. -/
def isWrapper : Frame → Bool
  | .wrapped _ [] _ => true
  | _ => false

/-- Whether the schema is made of that of the node at the place. -/
def isShown : Frame → Bool
  | .record [] _ | .array [] _ | .wrapped _ [] _ => true
  | .union _ _ | .intersection _ _ | .composite _ _ _ => true
  | _ => false

end Frame

/-- The node of several frames, the outermost first, with a node at the innermost place. -/
def fill (frames : List Frame) (n : TypeNode) : TypeNode := frames.foldr Frame.fill n

/-- Whether the innermost place is that of the first child of a literal and the type in the schema
of the whole node is the one given there: all around that literal are wrappers that stand for it and
literals whose type it gives. -/
def showsType : List Frame → Bool
  | [] => false
  | f :: frames =>
    (f.literal?.isSome && (frames.isEmpty || showsType frames)) ||
      (f.isWrapper && showsType frames)

/-- Whether the innermost place is that of the first child of a literal and the type given there is
read for the schema of the whole node. -/
def readsType : List Frame → Bool
  | [] => false
  | f :: frames =>
    (f.literal?.isSome && (frames.isEmpty || showsType frames)) || (f.isShown && readsType frames)

lemma isReference_fill (f : Frame) (n : TypeNode) : (f.fill n).isReference = false := by
  cases f <;> rfl

end TypeNode

namespace Schema

open TypeNode

/-! ### The type that a node gives a literal -/

/-- The type in the schema of a node. -/
def typeOf (n : TypeNode) : Option Json := (ofNode n).member? "type"

lemma typeOf_literal (value : Json) (children : List TypeNode) :
    typeOf (.literal value children) = some (literalType value children) := by
  rw [typeOf, ofNode]
  rfl

lemma ofNode_literal_eq_iff {value : Json} {children others : List TypeNode} :
    ofNode (.literal value children) = ofNode (.literal value others) ↔
      literalType value children = literalType value others := by
  rw [ofNode, ofNode]
  simp

lemma literalType_cons_eq (value : Json) (child : TypeNode) (rest : List TypeNode) :
    literalType value (child :: rest) = literalType value [child] := by
  rw [literalType_cons, literalType_cons]

lemma exists_of_isReference {n : TypeNode} (h : n.isReference = true) :
    ∃ name, n = .named name ∧ isReferenceName name = true ∧
      ofNode n = .object [("$ref", .string name)] := by
  cases n with
  | named name =>
    rw [isReference] at h
    exact ⟨name, rfl, h, by rw [ofNode, if_pos h]⟩
  | _ => cases h

/-- The type of a literal is the type in the schema of its first child, unless this is a
reference. -/
lemma literalType_of_not_isReference (value : Json) {child : TypeNode}
    (h : child.isReference = false) :
    literalType value [child] = (typeOf child).getD (.string (kindName value)) := by
  rw [literalType_cons]
  split
  · rename_i name
    rw [isReference] at h
    rw [typeOf, ofNode, h]
    rfl
  · rfl

/-- No value is of a kind whose name is that of a reference. -/
lemma isReferenceName_kindName (value : Json) : isReferenceName (kindName value) = false := by
  cases value with
  | number n => cases n <;> simp [kindName, isReferenceName]
  | _ => simp [kindName, isReferenceName]

/-- Nodes with one schema give a literal the same type when both are references or none is. -/
lemma literalType_eq_iff_isReference_eq (value : Json) {n m : TypeNode} (h : ofNode n = ofNode m) :
    literalType value [n] = literalType value [m] ↔ n.isReference = m.isReference := by
  -- A reference gives its name, which a schema with the reference does not have as its type.
  have hone : ∀ {n m : TypeNode}, ofNode n = ofNode m → n.isReference = true →
      m.isReference = false → literalType value [n] ≠ literalType value [m] := by
    intro n m h hn hm heq
    obtain ⟨name, rfl, href, hschema⟩ := exists_of_isReference hn
    rw [literalType_of_not_isReference value hm, typeOf, ← h, hschema, literalType] at heq
    cases heq
    rw [isReferenceName_kindName] at href
    cases href
  cases hn : n.isReference with
  | true =>
    cases hm : m.isReference with
    | true =>
      obtain ⟨name, rfl, _, hname⟩ := exists_of_isReference hn
      obtain ⟨other, rfl, _, hother⟩ := exists_of_isReference hm
      rw [hname, hother] at h
      cases h
      simp
    | false => simpa using hone h hn hm
  | false =>
    cases hm : m.isReference with
    | true => simpa using (hone h.symm hm hn).symm
    | false =>
      rw [literalType_of_not_isReference value hn, literalType_of_not_isReference value hm, typeOf,
        typeOf, h]
      simp

/-! ### Erased nodes -/

lemma isReference_erased (n : TypeNode) : n.erased.isReference = n.unwrapped.isReference := by
  rw [← erased_unwrapped]
  cases hn : n.unwrapped with
  | wrapped kind children =>
    cases children with
    | nil => rfl
    | cons child rest => exact absurd hn (n.unwrapped_ne_wrapped kind child rest)
  | _ => rfl

/-- Erasing a node changes the type in its schema only if the node stands for a literal. -/
lemma typeOf_erased {n : TypeNode} (h : n.unwrapped.isLiteral = false) :
    typeOf n.erased = typeOf n := by
  rw [typeOf, typeOf, ← ofNode_unwrapped n, ← erased_unwrapped]
  cases hn : n.unwrapped with
  | named name => rfl
  | literal value children =>
    rw [hn] at h
    cases h
  | record children | array children =>
    cases children with
    | nil => rfl
    | cons child rest =>
      rw [erased, erasedFirst, ofNode, ofNode]
      rfl
  | union children | intersection children =>
    rw [erased, ofNode, ofNode]
    rfl
  | wrapped kind children =>
    cases children with
    | nil => rw [erased]
    | cons child rest => exact absurd hn (n.unwrapped_ne_wrapped kind child rest)
  | composite fields =>
    rw [erased, ofNode, ofNode]
    rfl

/-- The type of a literal does not change when its first child is erased, unless this is a wrapper
around a reference or stands for a literal whose type changes. -/
lemma literalType_erased_eq_iff (value : Json) (child : TypeNode) :
    literalType value [child.erased] = literalType value [child] ↔
      (child.unwrapped.isReference && !child.isReference) = false ∧
        (child.unwrapped.isLiteral = true → ofNode child.erased = ofNode child) := by
  cases href : child.unwrapped.isReference with
  | true =>
    obtain ⟨name, hname, _, _⟩ := exists_of_isReference href
    have hschema : ofNode child.erased = ofNode child := by
      rw [← erased_unwrapped, ← ofNode_unwrapped child, hname, erased]
    rw [literalType_eq_iff_isReference_eq value hschema, isReference_erased, href, hname]
    cases child.isReference <;> simp [isLiteral]
  | false =>
    have hchild : child.isReference = false := by
      by_contra h
      rw [isReference_unwrapped (Bool.not_eq_false _ ▸ h)] at href
      cases href
    rw [literalType_of_not_isReference value hchild,
      literalType_of_not_isReference value ((isReference_erased child).trans href)]
    cases hliteral : child.unwrapped.isLiteral with
    | false => simp [typeOf_erased hliteral]
    | true =>
      obtain ⟨v, children, hnode⟩ : ∃ v children, child.unwrapped = .literal v children := by
        cases hn : child.unwrapped with
        | literal v children => exact ⟨v, children, rfl⟩
        | _ => rw [hn] at hliteral; cases hliteral
      have htype : typeOf child = some (literalType v children) := by
        rw [typeOf, ← ofNode_unwrapped, hnode, ← typeOf, typeOf_literal]
      have herased : child.erased = .literal v (erasedFirst children) := by
        rw [← erased_unwrapped, hnode, erased]
      rw [htype, herased, typeOf_literal, ← ofNode_unwrapped child, hnode, ofNode_literal_eq_iff]
      simp

/-- A node can be erased without a change of its schema exactly when no literal that is read has a
wrapper around a reference as its first child. -/
theorem ofNode_erased_eq_iff (n : TypeNode) : ofNode n.erased = ofNode n ↔ n.HidesNoReference := by
  induction n using TypeNode.induction_parts with
  | h n ih =>
    rw [hidesNoReference_iff]
    cases n with
    | named name => simp [erased, hidesReference, readOff, shown]
    | literal value children =>
      cases children with
      | nil => simp [erased, erasedFirst, hidesReference, readOff, shown]
      | cons child rest =>
        have hchild : ofNode child.erased = ofNode child ↔ child.HidesNoReference :=
          ih child List.mem_cons_self
        rw [erased, erasedFirst, ofNode_literal_eq_iff, literalType_cons_eq value child rest,
          literalType_erased_eq_iff, hchild, hidesReference, readOff]
        cases child.unwrapped.isLiteral <;> simp
    | record children | array children =>
      cases children with
      | nil => simp [erased, erasedFirst, hidesReference, readOff, shown]
      | cons child rest =>
        have hchild : ofNode child.erased = ofNode child ↔ child.HidesNoReference :=
          ih child List.mem_cons_self
        simp [erased, erasedFirst, ofNode, hidesReference, readOff, shown, hchild]
    | union children | intersection children =>
      have hchildren : ∀ m ∈ children, (ofNode m.erased = ofNode m ↔ m.HidesNoReference) := ih
      rw [erased, erasedAll_eq_map, ofNode, ofNode, ofNodes_eq_map, ofNodes_eq_map, List.map_map]
      simpa [hidesReference, readOff, shown] using forall₂_congr hchildren
    | wrapped kind children =>
      cases children with
      | nil => simp [erased, hidesReference, readOff, shown]
      | cons child rest =>
        have hchild : ofNode child.erased = ofNode child ↔ child.HidesNoReference :=
          ih child List.mem_cons_self
        simp [erased, ofNode, hidesReference, readOff, shown, hchild]
    | composite fields =>
      have hfields : ∀ m ∈ Table.values fields,
          (ofNode m.erased = ofNode m ↔ m.HidesNoReference) := ih
      have hsame : ofFields (erasedFields fields) = ofFields fields ↔
          ∀ m ∈ Table.values fields, ofNode m.erased = ofNode m := by
        rw [erasedFields_eq_map, ofFields_eq_map, ofFields_eq_map, List.map_map, List.map_inj_left,
          Table.values, List.forall_mem_map]
        simp
      rw [erased, ofNode, ofNode]
      simpa [closedObject, hidesReference, readOff, shown, hsame] using forall₂_congr hfields

/-! ### One wrapper at one place -/

/-- What stands in a frame matters to the schema as the type of a literal or as a schema. -/
lemma ofNode_fill_eq_iff (f : Frame) (n m : TypeNode) :
    ofNode (f.fill n) = ofNode (f.fill m) ↔
      (∀ value, f.literal? = some value → literalType value [n] = literalType value [m]) ∧
        (f.isShown = true → ofNode n = ofNode m) := by
  cases f with
  | literal value before after =>
    rw [Frame.fill, Frame.fill, ofNode_literal_eq_iff]
    cases before with
    | nil =>
      rw [List.nil_append, List.nil_append, literalType_cons_eq, literalType_cons_eq value m]
      simp [Frame.literal?, Frame.isShown]
    | cons b before =>
      rw [List.cons_append, List.cons_append, literalType_cons_eq,
        literalType_cons_eq value b (before ++ m :: after)]
      simp [Frame.literal?, Frame.isShown]
  | record before after | array before after | wrapped kind before after =>
    cases before <;> simp [Frame.fill, Frame.literal?, Frame.isShown, ofNode]
  | union before after | intersection before after =>
    simp [Frame.fill, Frame.literal?, Frame.isShown, ofNode, ofNodes_eq_map]
  | composite before name after =>
    simp [Frame.fill, Frame.literal?, Frame.isShown, ofNode, ofFields_eq_map, closedObject]

/-- The type in the schema of a filled frame is the type that what stands in it gives a literal, or
that in its schema, or does not depend on it. -/
lemma typeOf_fill_cases (f : Frame) :
    (∃ value, f.literal? = some value ∧ f.isWrapper = false ∧
      ∀ n, typeOf (f.fill n) = some (literalType value [n])) ∨
    (f.literal? = none ∧ f.isWrapper = true ∧ ∀ n, typeOf (f.fill n) = typeOf n) ∨
    (f.literal? = none ∧ f.isWrapper = false ∧ ∀ n m, typeOf (f.fill n) = typeOf (f.fill m)) := by
  cases f with
  | literal value before after =>
    cases before with
    | nil =>
      refine .inl ⟨value, rfl, rfl, fun n => ?_⟩
      rw [Frame.fill, typeOf_literal, List.nil_append, literalType_cons_eq]
    | cons b before =>
      refine .inr (.inr ⟨rfl, rfl, fun n m => ?_⟩)
      rw [Frame.fill, Frame.fill, typeOf_literal, typeOf_literal, List.cons_append,
        List.cons_append, literalType_cons_eq, literalType_cons_eq value b (before ++ m :: after)]
  | wrapped kind before after =>
    cases before with
    | nil =>
      refine .inr (.inl ⟨rfl, rfl, fun n => ?_⟩)
      rw [Frame.fill, typeOf, List.nil_append, ofNode, typeOf]
    | cons b before =>
      refine .inr (.inr ⟨rfl, rfl, fun n m => ?_⟩)
      rw [Frame.fill, Frame.fill, typeOf, typeOf, List.cons_append, List.cons_append, ofNode,
        ofNode]
  | record before after | array before after =>
    refine .inr (.inr ⟨rfl, rfl, fun n m => ?_⟩)
    cases before <;> simp [Frame.fill, typeOf, ofNode, Json.member?, Table.find?]
  | union before after | intersection before after =>
    refine .inr (.inr ⟨rfl, rfl, fun n m => ?_⟩)
    simp [Frame.fill, typeOf, ofNode, Json.member?, Table.find?]
  | composite before name after =>
    refine .inr (.inr ⟨rfl, rfl, fun n m => ?_⟩)
    simp [Frame.fill, typeOf, ofNode, closedObject, Json.member?, Table.find?]

/-- Whether the types in the schemas of two nodes, if there are any, differ. -/
def TypesDiffer (n m : TypeNode) : Bool → Prop
  | true => ∃ a b, typeOf n = some a ∧ typeOf m = some b ∧ a ≠ b
  | false => typeOf n = typeOf m

lemma TypesDiffer.congr {n m n' m' : TypeNode} {differ : Bool} (h : TypesDiffer n m differ)
    (hn : typeOf n' = typeOf n) (hm : typeOf m' = typeOf m) : TypesDiffer n' m' differ := by
  cases differ with
  | true =>
    obtain ⟨a, b, ha, hb, hne⟩ := h
    exact ⟨a, b, hn.trans ha, hm.trans hb, hne⟩
  | false => exact hn.trans (Eq.trans h hm.symm)

lemma TypesDiffer.literalType_eq_iff {n m : TypeNode} {differ : Bool} (h : TypesDiffer n m differ)
    (hn : n.isReference = false) (hm : m.isReference = false) (value : Json) :
    literalType value [n] = literalType value [m] ↔ differ = false := by
  rw [literalType_of_not_isReference value hn, literalType_of_not_isReference value hm]
  cases differ with
  | true =>
    obtain ⟨a, b, ha, hb, hne⟩ := h
    simp [ha, hb, hne]
  | false =>
    rw [show typeOf n = typeOf m from h]
    simp

/-- Two nodes with one schema have different types at a place, or make different schemas there,
where one of them is a reference, the other is none and the type that they give a literal is read.
-/
lemma fill_of_ofNode_eq {n m : TypeNode} (h : ofNode n = ofNode m) (frames : List Frame) :
    TypesDiffer (fill frames n) (fill frames m)
        ((n.isReference != m.isReference) && showsType frames) ∧
      (ofNode (fill frames n) = ofNode (fill frames m) ↔
        ((n.isReference != m.isReference) && readsType frames) = false) := by
  induction frames with
  | nil =>
    rw [showsType, readsType, Bool.and_false]
    exact ⟨congrArg (Json.member? "type") h, by simpa [fill] using h⟩
  | cons f frames ih =>
    obtain ⟨htypes, hschema⟩ := ih
    -- Only next to the place itself a reference is told from another node with its schema.
    have hgiven : ∀ value,
        literalType value [fill frames n] = literalType value [fill frames m] ↔
          ((n.isReference != m.isReference) && (frames.isEmpty || showsType frames)) = false := by
      intro value
      cases frames with
      | nil => simpa [fill] using literalType_eq_iff_isReference_eq value h
      | cons g frames =>
        exact htypes.literalType_eq_iff (isReference_fill g _) (isReference_fill g _) value
    constructor
    · change TypesDiffer (f.fill (fill frames n)) (f.fill (fill frames m)) _
      rw [showsType]
      rcases typeOf_fill_cases f with ⟨value, hliteral, hwrapper, htype⟩ |
        ⟨hliteral, hwrapper, htype⟩ | ⟨hliteral, hwrapper, htype⟩
      · rw [hliteral, hwrapper, Option.isSome_some, Bool.true_and, Bool.false_and, Bool.or_false]
        cases hdiffer : (n.isReference != m.isReference) &&
            (frames.isEmpty || showsType frames) with
        | true =>
          refine ⟨_, _, htype _, htype _, fun heq => ?_⟩
          rw [hgiven value, hdiffer] at heq
          cases heq
        | false =>
          exact (htype _).trans ((congrArg some ((hgiven value).mpr hdiffer)).trans (htype _).symm)
      · rw [hliteral, hwrapper, Option.isSome_none, Bool.false_and, Bool.true_and, Bool.false_or]
        exact htypes.congr (htype _) (htype _)
      · rw [hliteral, hwrapper, Option.isSome_none, Bool.false_and, Bool.false_and, Bool.or_false,
          Bool.and_false]
        exact htype _ _
    · change ofNode (f.fill (fill frames n)) = ofNode (f.fill (fill frames m)) ↔ _
      rw [ofNode_fill_eq_iff, readsType, hschema]
      simp only [hgiven]
      cases f.literal? <;> cases f.isShown <;> cases n.isReference != m.isReference <;> simp

/-- A wrapper can be put around a node at any place, or taken away, without a change of the schema,
unless the node is a reference and its place that of the type of a literal that is read. -/
lemma ofNode_fill_wrapped_eq_iff (frames : List Frame) (kind : String) (n : TypeNode)
    (rest : List TypeNode) :
    ofNode (fill frames (.wrapped kind (n :: rest))) = ofNode (fill frames n) ↔
      ¬ (n.isReference = true ∧ readsType frames = true) := by
  have hsame : ofNode (.wrapped kind (n :: rest)) = ofNode n := by rw [ofNode]
  have hwrapper : isReference (.wrapped kind (n :: rest)) = false := rfl
  rw [(fill_of_ofNode_eq hsame frames).2, hwrapper]
  cases n.isReference <;> cases readsType frames <;> simp

/-- The schema of a node sees through wrappers and past children that are not read, except where a
wrapper around a reference is the first child of a literal that is read. So it is for all wrappers
and children at once, and for one wrapper at any place. -/
theorem seesThrough_ofNode (n : TypeNode) :
    (ofNode n.erased = ofNode n ↔ n.HidesNoReference) ∧
      ∀ frames kind rest,
        ofNode (fill frames (.wrapped kind (n :: rest))) = ofNode (fill frames n) ↔
          ¬ (n.isReference = true ∧ readsType frames = true) :=
  ⟨ofNode_erased_eq_iff n, fun frames kind rest => ofNode_fill_wrapped_eq_iff frames kind n rest⟩

/-- A literal with a wrapper around a reference as its first child. -/
def ticketNode : TypeNode :=
  .literal (.string "open") [.wrapped "optional" [.named "#/Ticket"]]

theorem ofNode_erased_ticketNode :
    ofNode ticketNode =
        .object [("enum", .array [.string "open"]), ("type", .string "string")] ∧
      ofNode ticketNode.erased =
        .object [("enum", .array [.string "open"]), ("type", .string "#/Ticket")] ∧
      ¬ ∀ n : TypeNode, ofNode n = ofNode n.erased := by
  have hschema : ofNode ticketNode =
      .object [("enum", .array [.string "open"]), ("type", .string "string")] := by
    rfl
  have herased : ofNode ticketNode.erased =
      .object [("enum", .array [.string "open"]), ("type", .string "#/Ticket")] := by
    rfl
  refine ⟨hschema, herased, fun h => ?_⟩
  have hsame := h ticketNode
  rw [hschema, herased] at hsame
  simp at hsame

end Schema

end ApiContract
