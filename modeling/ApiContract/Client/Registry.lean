import ApiContract.Client.Collision
import ApiContract.Client.Item

/-!
# Generated modules

The modules of the client that depend on the specification: the schemas of each group, the errors,
the registries of endpoints, the dispatch tables and the list of modules.
-/

namespace ApiContract.Client

open Code

/-! ### Schemas -/

/-- The constant of one variant of an operation. -/
def variantConstant (tag expression : String) : Except Error Constant := do
  return ⟨" Variant `" ++ tag ++ "`.", ← Identifier.parse (constName tag), expression⟩

/-- The bindings of the schemas of an operation: a module with a constant for each of several
variants, else one constant, which is empty without a schema. -/
def schemaItem (op : Operation) : Except Error Item := do
  let doc := " Input schema of `" ++ op.name ++ "`."
  if op.hasVariants then
    let name ← Identifier.parse (moduleName op.name)
    return .bindings doc name (← op.schemas.mapM fun (tag, e) => variantConstant tag e)
  else
    return .constant ⟨doc, ← Identifier.parse (constName op.name), op.schemas.values.headD ""⟩

/-- The module of a single operation's schemas. -/
def Module.ofOperation (op : Operation) : Except Error Module := do
  return ⟨[], [← schemaItem op]⟩

/-- The module of the schemas of a group. -/
def Module.ofGroup (group : String) (ops : List Operation) : Except Error Module := do
  return ⟨[" Validation schemas for the `" ++ group ++ "` group."], ← ops.mapM schemaItem⟩

/-- The module that lists the modules of the groups. -/
def Module.ofSchemas (groups : List String) : Except Error Module := do
  let names ← groups.mapM fun g => Identifier.parse (moduleName g)
  return ⟨[" Validation schemas, one module per operation group."], names.map .submodule⟩

/-! ### Errors -/

/-- The type of an error. -/
def errorItem (name : String) : Except Error Item := do
  return .errorType (← Identifier.parse name) name

/-- The module of the error types. -/
def Module.ofErrors (names : List String) : Except Error Module := do
  return ⟨[" Error types referenced by the endpoint registry."], ← names.mapM errorItem⟩

/-! ### Registries -/

/-- The documentation of a marker. -/
def markerDoc (e : Endpoint) : String :=
  " `" ++ e.key.text ++ "`" ++
    match e.operation.description with
    | some d => ": " ++ d
    | none => ""

/-- The marker, the implementation and the error union of an endpoint that answers once. -/
def standardItems (e : Endpoint) : Except Error (List Item) := do
  let marker ← Identifier.parse e.marker
  let union ← Identifier.parse e.unionName
  let schema ← Path.parse e.schema.text
  let invalid ← Identifier.parse invalidInput
  let errors ← e.errors.mapM Identifier.parse
  return [.marker (markerDoc e) marker,
    .endpoint marker e.key.text schema e.operation.outputFormat union,
    .union marker union errors invalid]

/-- The marker and the implementation of an endpoint that answers with a stream. -/
def streamItems (e : Endpoint) : Except Error (List Item) := do
  let marker ← Identifier.parse e.marker
  let schema ← Path.parse e.schema.text
  return [.marker (markerDoc e) marker,
    .streamEndpoint marker e.key.text schema e.operation.outputFormat]

/-- The keys of endpoints. -/
def keyTexts (es : List Endpoint) : List String := es.map fun e => e.key.text

/-- The imports of the registry. -/
def registryImports (errorsPath : Path) (errors : List Identifier) : List Item := [
  .imports "crate::runtime" [.plain "Endpoint", .plain "ParseFailure"],
  .imports errorsPath.text errors]

/-- The path of the error types has to allow an import, if there is anything to import. -/
def checkImports (errorsPath : Path) (es : List Endpoint) : Except Error Unit :=
  match es, errorsPath.importFault? with
  | _ :: _, some fault => .error (.code fault)
  | _, _ => .ok ()

/-- The module of the endpoints that answer once. -/
def Module.ofEndpoints (errorsModule : String) (all : List Endpoint) : Except Error Module := do
  let es := Endpoint.standard all
  let errorsPath ← Path.parse errorsModule
  let errors ← (Endpoint.referencedErrors all).mapM Identifier.parse
  let items ← es.mapM standardItems
  checkImports errorsPath es
  return ⟨[" Registry of standard endpoints.", "",
      " Each marker type carries the key of its dispatch table entry, its",
      " input schema and its output and error types."],
    (if es.isEmpty then [] else registryImports errorsPath errors) ++ items.flatten ++
      [.keyList " Keys of every standard endpoint, in declaration order."
        (.plain "ENDPOINT_KEYS") (keyTexts es)]⟩

/-- The module of the endpoints that answer with a stream. -/
def Module.ofStreams (all : List Endpoint) : Except Error Module := do
  let es := Endpoint.streams all
  let items ← es.mapM streamItems
  return ⟨[" Registry of streaming endpoints."],
    (if es.isEmpty then [] else [.imports "crate::runtime" [.plain "StreamEndpoint"]]) ++
      items.flatten ++
      [.keyList " Keys of every streaming endpoint, in declaration order."
        (.plain "STREAM_ENDPOINT_KEYS") (keyTexts es)]⟩

/-! ### Dispatch -/

/-- The request plan of an endpoint. -/
def requestPlan (e : Endpoint) : RequestPlan :=
  ⟨e.operation.method.name, e.operation.path, e.placement.headers, e.placement.query,
    e.placement.body, e.placement.params, e.encoding⟩

/-- The function that builds the requests of an endpoint. -/
def builderItem (e : Endpoint) : Except Error Item := do
  return .builder (" Builds the request for `" ++ e.key.text ++ "`.")
    (← Identifier.parse e.builderName) (requestPlan e)

/-- The row of an endpoint. -/
def dispatchRow (e : Endpoint) : Except Error Row := do
  return ⟨e.key.text, ← Path.parse e.schema.text, ← Identifier.parse e.builderName⟩

/-- The names that the dispatch module imports. -/
def dispatchImports : List String := [
  "BodyEncoding", "Dispatch", "HttpRequest", "InputError", "RequestContext", "RequestPlan",
  "build_request"]

/-- The module of the dispatch tables. -/
def Module.ofDispatch (all : List Endpoint) : Except Error Module := do
  let builders ← all.mapM builderItem
  let rows ← (Endpoint.standard all).mapM dispatchRow
  let streamRows ← (Endpoint.streams all).mapM dispatchRow
  return ⟨[" Request dispatch tables.", "",
      " Every entry pairs an endpoint key with its input schema and the",
      " function building its HTTP request. Keys match the endpoint", " registries exactly."],
    [.imports "serde_json" [.plain "Value"],
      .imports "crate::runtime" (dispatchImports.map .plain)] ++ builders ++
    [.rows " Dispatch entries of standard endpoints." (.plain "DISPATCH") rows,
      .rows " Dispatch entries of streaming endpoints." (.plain "STREAM_DISPATCH") streamRows,
      .lookup " Finds the dispatch entry of a standard endpoint." (.plain "lookup")
        (.plain "DISPATCH"),
      .lookup " Finds the dispatch entry of a streaming endpoint." (.plain "lookup_stream")
        (.plain "STREAM_DISPATCH")]⟩

/-! ### The whole client -/

/-- The root module of the client, which lists the others. -/
def Module.ofModules (names : List String) : Except Error Module := do
  let names ← names.mapM Identifier.parse
  return ⟨[" Generated API client.", "",
      " - `endpoints` / `stream_endpoints` - typed endpoint registries",
      " - `dispatch` - request dispatch tables keyed like the registries",
      " - `schemas` - validation schemas per operation group",
      " - `runtime` - shared traits, request building and error types"],
    names.map .submodule⟩

end ApiContract.Client
