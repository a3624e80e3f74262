import ApiContract.Files.Atomic
import ApiContract.Format
import ApiContract.OpenApi.Paths
import ApiContract.Yaml.Printer

/-!
# Documents

A document names the API, its servers and its paths. `Document.ofSpec` makes the document of a
specification; every operation is tagged with its group.
-/

namespace ApiContract

/-- The version of the format of documents. -/
def openApiVersion : String := "3.1.0"

/-- An OpenAPI document. -/
structure Document where
  title : String
  version : String
  description : Option String
  servers : List String
  paths : Paths

namespace Document

/-- A document as JSON. -/
def toJson (d : Document) : Json := .object (
  [("openapi", .string openApiVersion),
    ("info", .object (
      [("title", .string d.title), ("version", .string d.version)] ++
      memberIfSome "description" (d.description.map .string)))] ++
  (if d.servers.isEmpty then []
    else [("servers", .array (d.servers.map fun url => .object [("url", .string url)]))]) ++
  [("paths", d.paths.toJson)])

/-- A document in a format. -/
def render (d : Document) : DocumentFormat → String
  | .json => d.toJson.pretty
  | .yaml => Yaml.render d.toJson

/-- Writes a document to a file. -/
def write (d : Document) (format : DocumentFormat) (path : String) : Files.Action Error Unit :=
  Files.writeAtomically path (d.render format)

/-- A document as it is shown instead of being written to a file. -/
def preview (d : Document) (format : DocumentFormat) (path : String) : String :=
  "=== " ++ path ++ " ===\n" ++ d.render format ++ "\n"

/-- The document's view of an operation, tagged with its group. -/
def taggedDef (group : String) (op : Operation) : Except Error OperationDef := do
  let d ← OperationDef.ofOperation op group
  return if d.tags.contains group then d else { d with tags := group :: d.tags }

/-- Declares the operations of a specification one after another. -/
def declareAll (b : PathsBuilder) : List (String × Operation) → Traced HookCall PathsBuilder
  | [] => return b
  | (group, op) :: rest => do
    declareAll (← b.addOperation (← Traced.lift (taggedDef group op))) rest

/-- The document of a specification. -/
def ofSpec (evaluator : Evaluator) (spec : ApiSpec) : Traced HookCall Document := do
  let b ← declareAll .empty spec.operations
  let paths ← b.build evaluator spec.definitions none
  Traced.log .info "built OpenAPI document"
    [("paths", toString paths.length), ("title", spec.title)]
  return ⟨spec.title, spec.version, spec.description, spec.servers, paths⟩

end Document

end ApiContract
