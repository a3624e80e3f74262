import ApiContract.Spec.Method
import ApiContract.Spec.Input
import ApiContract.Spec.TypeNode
import ApiContract.Text.Class

/-!
# Specifications

A specification names an API and lists its operations in groups. Each record can be read from any
source of records and written as a JSON value; a field that has its default value may be left out.
-/

namespace ApiContract

open Decode

/-- The content type of JSON, the default of bodies and responses. -/
def jsonContentType : String := "application/json"

/-- The content type whose schema is always a binary string. -/
def octetStreamContentType : String := "application/octet-stream"

/-- The tag of the schema variant that adds nothing to names and keys. -/
def defaultVariant : String := "default"

/-! ### Responses -/

/-- A response that an operation may give. -/
structure ResponseItem where
  statusCode : String
  responseType : Option TypeNode
  contentType : String
  headers : List String

/-- A list of strings as a JSON value. -/
def stringList (items : List String) : Json := .array (items.map .string)

/-- A member that is left out when there is no value. -/
def memberIfSome (key : String) (v : Option Json) : List (String × Json) :=
  match v with
  | some v => [(key, v)]
  | none => []

/-- A list of strings as a member that is left out when the list is empty. -/
def memberIfAny (key : String) (items : List String) : List (String × Json) :=
  if items.isEmpty then [] else [(key, stringList items)]

namespace ResponseItem

/-- A response of a status in JSON, without a type. -/
def new (statusCode : String) : ResponseItem := ⟨statusCode, none, jsonContentType, []⟩

/-- Whether the response is a stream of bytes; the content type is compared without regard to the
case of ASCII letters. -/
def isOctetStream (r : ResponseItem) : Bool :=
  Text.asciiLower r.contentType == octetStreamContentType

/-- The fields of a response. -/
def fields {ν ε : Type} [Source ν ε] : List (Field ν ε ResponseItem) := [
  ⟨"statusCode", true, fun v r => return { r with statusCode := (← Source.text v) }⟩,
  ⟨"responseType", false,
    fun v r => return { r with responseType := (← optional TypeNode.decode v) }⟩,
  ⟨"contentType", false, fun v r => return { r with contentType := (← Source.text v) }⟩,
  ⟨"headers", false, fun v r => return { r with headers := (← list Source.text v) }⟩]

/-- Reads a response. -/
def decode {ν ε : Type} [Source ν ε] (v : ν) : Except ε ResponseItem :=
  record "ResponseItem" fields (new "") v

/-- The JSON value of a response. -/
def toJson (r : ResponseItem) : Json := .object (
  [("statusCode", .string r.statusCode)] ++
  memberIfSome "responseType" (r.responseType.map TypeNode.toJson) ++
  [("contentType", .string r.contentType)] ++ memberIfAny "headers" r.headers)

end ResponseItem

/-! ### Operations -/

/-- Whether an operation answers once or with a stream of items. -/
inductive OperationKind where
  | standard
  | stream
  deriving DecidableEq, Repr

/-- What becomes of the body of an answer. -/
inductive OutputFormat where
  | json
  | text
  | binary
  | empty
  deriving DecidableEq, Repr

/-- The name of a kind. -/
def OperationKind.name : OperationKind → String
  | .standard => "standard"
  | .stream => "stream"

/-- Reads a kind. -/
def OperationKind.decode {ν ε : Type} [Source ν ε] (v : ν) : Except ε OperationKind := do
  let name ← Source.choice ["standard", "stream"] v
  return if name == "stream" then .stream else .standard

/-- The name of a format. -/
def OutputFormat.name : OutputFormat → String
  | .json => "json"
  | .text => "text"
  | .binary => "binary"
  | .empty => "empty"

/-- The formats in the order in which messages list them. -/
def OutputFormat.all : List OutputFormat := [.json, .text, .binary, .empty]

/-- Reads a format. -/
def OutputFormat.decode {ν ε : Type} [Source ν ε] (v : ν) : Except ε OutputFormat := do
  let name ← Source.choice (all.map OutputFormat.name) v
  return (all.find? fun f => f.name == name).getD .json

/-- An operation of an API. `schemas` holds the validation expressions of its variants by tag. -/
structure Operation where
  name : String
  method : Method
  path : String
  inputs : Table String InputField
  schemas : Table String String
  errors : List String
  kind : OperationKind
  contentType : Option String
  outputFormat : OutputFormat
  description : Option String
  tags : List String
  responses : List ResponseItem

namespace Operation

/-- An operation with nothing but a name, a method and a path. -/
def new (name : String) (method : Method) (path : String) : Operation :=
  ⟨name, method, path, [], [], [], .standard, none, .json, none, [], []⟩

/-- Whether the operation answers with a stream. -/
def isStream (op : Operation) : Bool := op.kind == .stream

/-- Whether the operation has several variants. -/
def hasVariants (op : Operation) : Bool := decide (1 < op.schemas.length)

/-- The inputs that are not internal, in order of declaration. -/
def selectors (op : Operation) : List Selector :=
  (op.inputs.filter fun e => e.2.source ≠ .internal).map fun e => Selector.ofField e.1 e.2

/-- The fields of an operation. -/
def fields {ν ε : Type} [Source ν ε] : List (Field ν ε Operation) := [
  ⟨"name", true, fun v op => return { op with name := (← Source.text v) }⟩,
  ⟨"method", true, fun v op => return { op with method := (← Method.decode v) }⟩,
  ⟨"path", true, fun v op => return { op with path := (← Source.text v) }⟩,
  ⟨"inputs", false, fun v op => return { op with inputs := (← table InputField.decode v) }⟩,
  ⟨"schemas", false, fun v op => return { op with schemas := (← table Source.text v) }⟩,
  ⟨"errors", false, fun v op => return { op with errors := (← list Source.text v) }⟩,
  ⟨"kind", false, fun v op => return { op with kind := (← OperationKind.decode v) }⟩,
  ⟨"contentType", false,
    fun v op => return { op with contentType := (← optional Source.text v) }⟩,
  ⟨"outputFormatter", false,
    fun v op => return { op with outputFormat := (← OutputFormat.decode v) }⟩,
  ⟨"description", false,
    fun v op => return { op with description := (← optional Source.text v) }⟩,
  ⟨"tags", false, fun v op => return { op with tags := (← list Source.text v) }⟩,
  ⟨"responses", false,
    fun v op => return { op with responses := (← list ResponseItem.decode v) }⟩]

/-- Reads an operation. -/
def decode {ν ε : Type} [Source ν ε] (v : ν) : Except ε Operation :=
  record "OperationSpec" fields (new "" .get "") v

/-- The JSON value of an operation. -/
def toJson (op : Operation) : Json := .object (
  [("name", .string op.name), ("method", op.method.toJson), ("path", .string op.path),
    ("inputs", .object (op.inputs.map fun e => (e.1, e.2.toJson))),
    ("schemas", .object (op.schemas.map fun e => (e.1, .string e.2))),
    ("errors", stringList op.errors), ("kind", .string op.kind.name)] ++
  memberIfSome "contentType" (op.contentType.map .string) ++
  [("outputFormatter", .string op.outputFormat.name)] ++
  memberIfSome "description" (op.description.map .string) ++
  memberIfAny "tags" op.tags ++
  if op.responses.isEmpty then []
  else [("responses", .array (op.responses.map ResponseItem.toJson))])

end Operation

/-! ### The whole -/

/-- Operations in groups. -/
abbrev Groups := Table String (List Operation)

/-- A specification. -/
structure ApiSpec where
  title : String
  version : String
  description : Option String
  servers : List String
  definitions : Option String
  groups : Groups

namespace ApiSpec

/-- The fields of a specification. -/
def fields {ν ε : Type} [Source ν ε] : List (Field ν ε ApiSpec) := [
  ⟨"title", true, fun v s => return { s with title := (← Source.text v) }⟩,
  ⟨"version", true, fun v s => return { s with version := (← Source.text v) }⟩,
  ⟨"description", false,
    fun v s => return { s with description := (← optional Source.text v) }⟩,
  ⟨"servers", false, fun v s => return { s with servers := (← list Source.text v) }⟩,
  ⟨"definitions", false,
    fun v s => return { s with definitions := (← optional Source.text v) }⟩,
  ⟨"groups", true, fun v s => return { s with groups := (← table (list Operation.decode) v) }⟩]

/-- Reads a specification. -/
def decode {ν ε : Type} [Source ν ε] (v : ν) : Except ε ApiSpec :=
  record "ApiSpec" fields ⟨"", "", none, [], none, []⟩ v

/-- The JSON value of a specification. -/
def toJson (s : ApiSpec) : Json := .object (
  [("title", .string s.title), ("version", .string s.version)] ++
  memberIfSome "description" (s.description.map .string) ++
  memberIfAny "servers" s.servers ++
  memberIfSome "definitions" (s.definitions.map .string) ++
  [("groups", .object (s.groups.map fun e => (e.1, .array (e.2.map Operation.toJson))))])

/-- The operations with their groups, in order of declaration. -/
def operations (s : ApiSpec) : List (String × Operation) :=
  s.groups.flatMap fun g => g.2.map fun op => (g.1, op)

end ApiSpec

end ApiContract
