import ApiContract.Decode

/-!
# Type nodes

A type node describes the shape of a response. Any JSON value denotes a node: a string a name, an
array or an object whose `kind` is not reserved a wrapper around its items, any other object a
composite of its members.
-/

namespace ApiContract

/-- The shape of a piece of data. -/
inductive TypeNode where
  /-- A reference (`#…`) or the name of a type. -/
  | named (name : String)
  /-- One value; the first child names its type. -/
  | literal (value : Json) (children : List TypeNode)
  /-- A map; the first child is the type of its values. -/
  | record (children : List TypeNode)
  /-- A list; the first child is the type of its items. -/
  | array (children : List TypeNode)
  | union (children : List TypeNode)
  | intersection (children : List TypeNode)
  /-- A node of another kind, which stands for its first child. -/
  | wrapped (kind : String) (children : List TypeNode)
  /-- An object with a fixed set of fields. -/
  | composite (fields : List (String × TypeNode))
  deriving Repr, Inhabited

namespace TypeNode

/-- Whether a name refers to a definition. -/
def isReferenceName (name : String) : Bool := name.toList.head? == some '#'

/-- Whether a node is a reference. -/
def isReference : TypeNode → Bool
  | .named name => isReferenceName name
  | _ => false

/-- The reference to a target; the leading `#` may be left out. -/
def reference (target : String) : TypeNode :=
  .named (if isReferenceName target then target else "#" ++ target)

/-! ### Reading -/

/-- Whether a table of members has a list of children that is not empty. -/
def hasChildren (members : List (String × Json)) : Bool :=
  match Table.find? "children" members with
  | some (.array (_ :: _)) => true
  | _ => false

mutual

/-- The node that a value denotes. -/
def ofJson : Json → TypeNode
  | .string name => .named name
  | .null => .named "any"
  | .array items => .wrapped "list" (ofItems items)
  | .object members =>
    match Table.find? "kind" members with
    | some (.string kind) =>
      if kind = "literal" then
        .literal ((Table.find? "value" members).getD .null) (childrenOf members)
      else if kind = "record" then .record (childrenOf members)
      else if kind = "array" then .array (childrenOf members)
      else if kind = "union" then .union (childrenOf members)
      else if kind = "intersection" then .intersection (childrenOf members)
      else if hasChildren members then .wrapped kind (childrenOf members)
      else .composite (ofMembers members)
    | _ => .composite (ofMembers members)
  | scalar => .literal scalar []

/-- The nodes of items. -/
def ofItems : List Json → List TypeNode
  | [] => []
  | v :: rest => ofJson v :: ofItems rest

/-- The nodes of members. -/
def ofMembers : List (String × Json) → List (String × TypeNode)
  | [] => []
  | (key, v) :: rest => (key, ofJson v) :: ofMembers rest

/-- The nodes of the member `children`, if it is an array. -/
def childrenOf : List (String × Json) → List TypeNode
  | [] => []
  | (key, .array items) :: rest => if key = "children" then ofItems items else childrenOf rest
  | (key, _) :: rest => if key = "children" then [] else childrenOf rest

end

/-! ### Writing -/

/-- An object with a kind and children. -/
def tagged (kind : String) (children : List Json) : List (String × Json) :=
  [("kind", .string kind), ("children", .array children)]

mutual

/-- The value that a node is written as. -/
def toJson : TypeNode → Json
  | .named name => .string name
  | .literal value children =>
    .object (tagged "literal" (toItems children) ++ [("value", value)])
  | .record children => .object (tagged "record" (toItems children))
  | .array children => .object (tagged "array" (toItems children))
  | .union children => .object (tagged "union" (toItems children))
  | .intersection children => .object (tagged "intersection" (toItems children))
  | .wrapped kind children => .object (tagged kind (toItems children))
  | .composite fields => .object (toMembers fields)

/-- The values of nodes. -/
def toItems : List TypeNode → List Json
  | [] => []
  | n :: rest => toJson n :: toItems rest

/-- The values of fields. -/
def toMembers : List (String × TypeNode) → List (String × Json)
  | [] => []
  | (key, n) :: rest => (key, toJson n) :: toMembers rest

end

/-- Reads a node. -/
def decode {ν ε : Type} [Decode.Source ν ε] (v : ν) : Except ε TypeNode :=
  return ofJson (← Decode.Source.value v)

end TypeNode

end ApiContract
