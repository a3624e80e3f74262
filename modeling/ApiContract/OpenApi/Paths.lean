import ApiContract.Evaluator
import ApiContract.OpenApi.Responses

/-!
# The paths of a document

`PathsBuilder` collects operations and responses in any order; `PathsBuilder.build` evaluates the
inputs of every operation and puts the objects together, one operation after another. The first
operation of a path and method takes the responses declared for that pair, a later one finds them in
the object that is there. A hook may see every finished object and return a fragment; fragments are
laid over the result at the end.
-/

namespace ApiContract

/-- Operation objects by path and by the key of the method. -/
abbrev Paths := Table String (Table String Json)

/-- Paths as JSON. -/
def Paths.toJson (paths : Paths) : Json := .object (paths.map fun p => (p.1, .object p.2))

/-- The object of a path and the key of a method. -/
def Paths.objectAt? (path key : String) (paths : Paths) : Option Json :=
  (Table.find? path paths).bind (Table.find? key)

/-- An operation as the document sees it. -/
structure OperationDef where
  name : String
  path : String
  method : Method
  selectors : List Selector
  responses : List ResponseItem
  tags : List String
  description : Option String
  sourceFile : String
  contentType : Option String

/-- A call of the hook: an operation and its finished object. -/
structure HookCall where
  sourceFile : String
  method : Method
  path : String
  operation : Json

/-- A hook: what it returns for a call, given the calls before it. -/
abbrev Hook := List HookCall → HookCall → Option Paths

namespace OperationDef

/-- The error of an input whose source is not known. -/
def unknownSource (s : Selector) (operation : String) : Error :=
  .unknownSource s.name operation s.source.name

/-- The document's view of an operation of a specification; its sources have to be known. -/
def ofOperation (op : Operation) (sourceFile : String) : Except Error OperationDef :=
  match op.selectors.find? fun s => !s.source.isKnown with
  | some s => .error (unknownSource s op.name)
  | none => .ok ⟨op.name, op.path, op.method, op.selectors, op.responses, op.tags, op.description,
      sourceFile, op.contentType⟩

/-- Whether the operation has a request body. -/
def hasBody (op : OperationDef) : Bool := op.selectors.any fun s => s.source == .body

end OperationDef

/-! ### Inputs -/

/-- The evaluated inputs of an operation: the parameters, the properties of the body, and the names
of those that have to be given. -/
structure Inputs where
  parameters : List Json
  properties : Table String Json
  required : List String

namespace Inputs

/-- No input. -/
def empty : Inputs := ⟨[], [], []⟩

/-- The object of a parameter. -/
def parameterJson (location : Location) (s : Selector) (schema : Json) : Json := .object [
  ("in", .string location.name), ("name", .string s.name), ("required", .bool s.required),
  ("schema", schema)]

/-- The inputs with one more, whose schema is given. -/
def add (inputs : Inputs) (s : Selector) (schema : Json) : Inputs :=
  let schema := if s.nullable then Schema.nullable schema else schema
  match s.source.binding with
  | .location l => { inputs with parameters := inputs.parameters ++ [parameterJson l s schema] }
  | .body =>
    { inputs with
      properties := inputs.properties.insert s.name schema
      required := if s.required then inputs.required ++ [s.name] else inputs.required }
  | .excluded | .unknown _ => inputs

/-- Evaluates an expression. -/
def evaluate (evaluator : Evaluator) (definitions : Option String) (expression : String) :
    Traced HookCall Json := do
  let prepared := Evaluator.prepare expression
  Traced.step (.evaluated ⟨prepared, definitions⟩)
  let answer := evaluator prepared definitions
  Traced.logAll answer.events
  Traced.lift answer.schema

/-- Evaluates the inputs of an operation in order. -/
def evaluateAll (evaluator : Evaluator) (definitions : Option String) (operation : String)
    (inputs : Inputs) : List Selector → Traced HookCall Inputs
  | [] => return inputs
  | s :: rest => do
    match s.source.binding with
    | .excluded => evaluateAll evaluator definitions operation inputs rest
    | .unknown _ => Traced.fail (OperationDef.unknownSource s operation)
    | _ =>
      let schema ← evaluate evaluator definitions s.expression
      evaluateAll evaluator definitions operation (inputs.add s schema) rest

end Inputs

/-! ### Operation objects -/

/-- The object of a request body. -/
def requestBodyJson (contentType : String) (inputs : Inputs) : Json :=
  let schema : Json := .object (
    [("type", .string "object"), ("properties", .object inputs.properties)] ++
    memberIfAny "required" inputs.required)
  .object [
    ("required", .bool (!inputs.required.isEmpty)),
    ("content", .object [(contentType, .object [("schema", schema)])])]

/-- The object of an operation. -/
def operationJson (op : OperationDef) (inputs : Inputs) (responses : Responses) : Json := .object (
  [("operationId", .string op.name)] ++ memberIfAny "tags" op.tags ++
  memberIfSome "description" (op.description.map .string) ++
  [("parameters", .array inputs.parameters)] ++
  (if op.hasBody then
    [("requestBody", requestBodyJson (op.contentType.getD jsonContentType) inputs)] else []) ++
  if responses.isEmpty then [] else [("responses", .object responses)])

/-! ### The builder -/

/-- Operations and responses that have been declared. -/
structure PathsBuilder where
  operations : List OperationDef
  responses : Table (String × Method) Responses

namespace PathsBuilder

/-- Nothing declared. -/
def empty : PathsBuilder := ⟨[], []⟩

/-- The responses declared for a path and method. -/
def responsesOf (b : PathsBuilder) (path : String) (method : Method) : Responses :=
  (Table.find? (path, method) b.responses).getD []

/-- Declares responses of a path and method. -/
def addResponses (b : PathsBuilder) (path : String) (method : Method) (items : List ResponseItem) :
    Traced HookCall PathsBuilder := do
  let merged ← Responses.mergeAll (b.responsesOf path method) items
  return { b with responses := b.responses.insert (path, method) merged }

/-- Declares an operation and its responses. -/
def addOperation (b : PathsBuilder) (op : OperationDef) : Traced HookCall PathsBuilder := do
  let b ← b.addResponses op.path op.method op.responses
  Traced.log .debug "accumulated operation"
    [("operation", op.name), ("method", op.method.name), ("path", op.path)]
  return { b with operations := b.operations ++ [op] }

/-- The fragments that a hook has returned and the calls it has had. -/
structure HookState where
  calls : List HookCall
  fragments : List Paths

/-- Shows a finished operation to the hook, if there is one. -/
def callHook (hook : Option Hook) (state : HookState) (call : HookCall) :
    Traced HookCall HookState :=
  match hook with
  | none => return state
  | some hook => do
    Traced.step (.hooked call)
    let fragments := match hook state.calls call with
      | some fragment => state.fragments ++ [fragment]
      | none => state.fragments
    return ⟨state.calls ++ [call], fragments⟩

/-- What a build has come to: the paths so far, the responses that no operation has taken, and what
became of the hook. -/
structure Progress where
  paths : Paths
  untaken : Table (String × Method) Responses
  hook : HookState

/-- The responses in the object that paths have for an operation. -/
def placedResponses (op : OperationDef) (paths : Paths) : Responses :=
  (((paths.objectAt? op.path op.method.pathKey).bind (Json.member? "responses")).bind
    Json.members?).getD []

/-- The responses of an operation, and those that are left for other pairs of path and method. -/
def takeResponses (op : OperationDef) (p : Progress) :
    Responses × Table (String × Method) Responses :=
  match p.untaken.find? (op.path, op.method) with
  | some responses => (responses, p.untaken.erase (op.path, op.method))
  | none => (placedResponses op p.paths, p.untaken)

/-- Paths with the object of an operation. -/
def place (op : OperationDef) (object : Json) (paths : Paths) : Paths :=
  Table.alter op.path (fun methods => Table.insert op.method.pathKey object (methods.getD [])) paths

/-- Builds the object of one operation. -/
def buildOne (evaluator : Evaluator) (definitions : Option String) (hook : Option Hook)
    (p : Progress) (op : OperationDef) : Traced HookCall Progress := do
  let (responses, untaken) := takeResponses op p
  let inputs ← Inputs.evaluateAll evaluator definitions op.name .empty op.selectors
  let object := operationJson op inputs responses
  Traced.log .debug "built operation"
    [("operation", op.name), ("path", op.path), ("method", op.method.pathKey)]
  let hook ← callHook hook p.hook ⟨op.sourceFile, op.method, op.path, object⟩
  return ⟨place op object p.paths, untaken, hook⟩

/-- Builds the objects of operations one after another. -/
def buildAll (evaluator : Evaluator) (definitions : Option String) (hook : Option Hook)
    (p : Progress) : List OperationDef → Traced HookCall Progress
  | [] => return p
  | op :: rest => do
    let p ← buildOne evaluator definitions hook p op
    buildAll evaluator definitions hook p rest

/-- Lays a fragment over paths. -/
def overlay (paths : Paths) (fragment : Paths) : Paths :=
  fragment.foldl (fun paths p =>
    Table.alter p.1 (fun methods => Table.insertAll p.2 (methods.getD [])) paths) paths

/-- The paths of all that has been declared. -/
def build (evaluator : Evaluator) (definitions : Option String) (hook : Option Hook)
    (b : PathsBuilder) : Traced HookCall Paths := do
  let p ← buildAll evaluator definitions hook ⟨[], b.responses, ⟨[], []⟩⟩ b.operations
  return p.hook.fragments.foldl overlay p.paths

end PathsBuilder

end ApiContract
