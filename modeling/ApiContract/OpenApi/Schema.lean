import ApiContract.Spec.TypeNode

/-!
# JSON schemas of type nodes

Every node has a schema, and so has the absence of one. Of a record, an array, a literal and a
wrapper only the first child matters.
-/

namespace ApiContract.Schema

/-- The schema of a named type. -/
def type (name : String) : Json := .object [("type", .string name)]

/-- The schema of anything. -/
def any : Json := type "any"

/-- The schema of bytes. -/
def binary : Json := .object [("type", .string "string"), ("format", .string "binary")]

/-- An object with fixed properties and no others. -/
def closedObject (properties : List (String × Json)) : Json := .object [
  ("type", .string "object"), ("properties", .object properties),
  ("additionalProperties", .bool false)]

/-- The name of the type of a value. -/
def kindName : Json → String
  | .null => "null"
  | .bool _ => "boolean"
  | .number (.integer _) => "integer"
  | .number (.real _) => "number"
  | .string _ => "string"
  | .array _ => "array"
  | .object _ => "object"

/-- A value or null. -/
def nullable (schema : Json) : Json := .object [("anyOf", .array [schema, type "null"])]

mutual

/-- The schema of a node. -/
def ofNode : TypeNode → Json
  | .named name => if TypeNode.isReferenceName name then .object [("$ref", .string name)]
    else type name
  | .literal value children =>
    .object [("enum", .array [value]), ("type", literalType value children)]
  | .record [] => .object [("type", .string "object"), ("additionalProperties", any)]
  | .record (child :: _) =>
    .object [("type", .string "object"), ("additionalProperties", ofNode child)]
  | .array [] => .object [("type", .string "array"), ("items", .object [])]
  | .array (child :: _) => .object [("type", .string "array"), ("items", ofNode child)]
  | .union children => .object [("anyOf", .array (ofNodes children))]
  | .intersection children => .object [("allOf", .array (ofNodes children))]
  | .wrapped _ [] => closedObject []
  | .wrapped _ (child :: _) => ofNode child
  | .composite fields => closedObject (ofFields fields)

/-- The type of a literal: the name that its first child is, or else the type in the schema of that
child, or else the type of the value. -/
def literalType (value : Json) : List TypeNode → Json
  | [] => .string (kindName value)
  | .named name :: _ => .string name
  | child :: _ => ((ofNode child).member? "type").getD (.string (kindName value))

/-- The schemas of nodes. -/
def ofNodes : List TypeNode → List Json
  | [] => []
  | n :: rest => ofNode n :: ofNodes rest

/-- The schemas of fields. -/
def ofFields : List (String × TypeNode) → List (String × Json)
  | [] => []
  | (name, n) :: rest => (name, ofNode n) :: ofFields rest

end

/-- The schema of a node, or of anything if there is none. -/
def ofNode? : Option TypeNode → Json
  | some n => ofNode n
  | none => any

end ApiContract.Schema
