import ApiContract.Client.Encoding
import ApiContract.Client.Placement
import ApiContract.Text.Casing

/-!
# Endpoints

An operation with several schema variants gives one endpoint a variant, any other operation gives
one endpoint. Every part of the generated client is derived from the same list of endpoints, so
names, keys and schema paths agree between the parts.
-/

namespace ApiContract.Client

/-! ### Names -/

/-- The name of a type. -/
def typeName (name : String) : String := Text.camel name

/-- The name of a constant. -/
def constName (name : String) : String := Text.shouty name

/-- The name of a module or function. -/
def moduleName (name : String) : String := Text.snake name

/-- The marker type of a variant of an operation; only a variant other than the default one is
named. -/
def markerName (operation : String) (variant : Option String) : String :=
  match variant with
  | some tag => typeName operation ++ typeName tag
  | none => typeName operation

/-! ### Keys -/

/-- The identity of an endpoint. -/
structure EndpointKey where
  variant : Option String
  method : Method
  path : String
  deriving DecidableEq, Repr

namespace EndpointKey

/-- The key of a variant of an operation. The tag is part of the key when the operation has other
variants and the tag is not the default one. -/
def ofVariant (op : Operation) (tag : String) : EndpointKey :=
  ⟨if op.hasVariants && tag != defaultVariant then some tag else none, op.method, op.path⟩

/-- The text of a key. -/
def text (k : EndpointKey) : String :=
  (match k.variant with
    | some tag => tag ++ " "
    | none => "") ++ k.method.name ++ " " ++ k.path

end EndpointKey

/-! ### Schemas -/

/-- Where the schema expression of an endpoint is bound. -/
structure SchemaPath where
  module : String
  nested : Option String
  constant : String
  deriving DecidableEq, Repr

/-- The path of a schema from the root of the client. -/
def SchemaPath.text (p : SchemaPath) : String :=
  "crate::schemas::" ++ p.module ++ "::" ++
    (match p.nested with
      | some nested => nested ++ "::"
      | none => "") ++ p.constant

/-! ### Endpoints -/

/-- An operation restricted to one schema variant. The tag is absent when the operation has at most
one variant. -/
structure Endpoint where
  group : String
  operation : Operation
  variant : Option String
  key : EndpointKey
  marker : String
  schema : SchemaPath
  placement : Placement
  contentType : String

/-- The content type of the body of a variant: its tag unless it is the default one, else the
declared type, else JSON. -/
def bodyContentType (op : Operation) (variant : Option String) : String :=
  (variant <|> op.contentType).getD jsonContentType

namespace Endpoint

/-- Whether the endpoint answers with a stream. -/
def isStream (e : Endpoint) : Bool := e.operation.isStream

/-- The endpoint of one of several variants. -/
def ofVariant (group : String) (op : Operation) (placement : Placement) (tag : String) :
    Endpoint :=
  let named := if tag == defaultVariant then none else some tag
  ⟨group, op, some tag, EndpointKey.ofVariant op tag, markerName op.name named,
    ⟨moduleName group, some (moduleName op.name), constName tag⟩, placement,
    bodyContentType op named⟩

/-- The endpoint of an operation without several variants. -/
def ofSingle (group : String) (op : Operation) (placement : Placement) : Endpoint :=
  ⟨group, op, none, EndpointKey.ofVariant op defaultVariant, markerName op.name none,
    ⟨moduleName group, none, constName op.name⟩, placement, bodyContentType op none⟩

/-- The endpoints of an operation. -/
def ofOperation (group : String) (op : Operation) : Except Error (List Endpoint) := do
  let placement ← Placement.ofOperation op
  return if op.hasVariants then op.schemas.keys.map (ofVariant group op placement)
    else [ofSingle group op placement]

/-- The endpoints of all operations, in order of declaration. -/
def ofGroups (groups : Groups) : Except Error (List Endpoint) := do
  let all ← groups.mapM fun (group, ops) => ops.mapM (ofOperation group)
  return (all.map List.flatten).flatten

/-- The encoding of the body. -/
def encoding (e : Endpoint) : Encoding := .ofContentType e.contentType

/-- The name of the function that builds the request. -/
def builderName (e : Endpoint) : String := "build_" ++ moduleName e.marker

/-- The name of the union of the errors. -/
def unionName (e : Endpoint) : String := e.marker ++ "Error"

/-- The operation and the variant, as reports name them. -/
def origin (e : Endpoint) : String :=
  e.group ++ "." ++ e.operation.name ++
    match e.variant with
    | some tag => " [" ++ tag ++ "]"
    | none => ""

/-! ### Errors -/

/-- A list without repetitions, each item at its first place. -/
def distinct (items : List String) : List String :=
  items.foldl (fun seen x => if seen.contains x then seen else seen ++ [x]) []

/-- The error of endpoints that declare none. -/
def fallbackError : String := "UnknownError"

/-- The errors of an endpoint, each once. -/
def errors (e : Endpoint) : List String :=
  if e.operation.errors.isEmpty then [fallbackError] else distinct e.operation.errors

/-- The endpoints that answer once. -/
def standard (es : List Endpoint) : List Endpoint := es.filter fun e => !e.isStream

/-- The endpoints that answer with a stream. -/
def streams (es : List Endpoint) : List Endpoint := es.filter fun e => e.isStream

/-- The errors of the endpoints that answer once, each at its first use. -/
def referencedErrors (es : List Endpoint) : List String :=
  distinct ((standard es).flatMap errors)

end Endpoint

end ApiContract.Client
