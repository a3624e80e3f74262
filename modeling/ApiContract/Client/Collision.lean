import ApiContract.Client.Endpoint
import ApiContract.Client.Route
import ApiContract.Trace

/-!
# Collisions

Two operations must not give the same name: not the same group module, type, schema constant or, in
the same table, endpoint key; and no error may have the name of a type or of the variant for failed
validation. Placeholders of a path without a parameter, and the reverse, are only reported.
-/

namespace ApiContract.Client

/-- The types that every client has. -/
def supportTypes : List String := [
  "Endpoint", "StreamEndpoint", "ParseFailure", "InputError", "RequestContext", "RequestPlan",
  "RequestBody", "HttpRequest", "BodyEncoding", "BuildFn", "Dispatch"]

/-- Who owns the types that every client has. -/
def supportOwner : String := "generated runtime"

/-- The variant of every error union for failed validation. -/
def invalidInput : String := "InvalidInput"

/-- Names with their owners. -/
abbrev Owners := Table String String

/-- Gives a name to an owner; a name has one owner. -/
def claim (kind : NameKind) (name owner : String) (owners : Owners) : Except Error Owners :=
  match owners.find? name with
  | some first => .error (.collision kind name first owner)
  | none => .ok (owners.insert name owner)

/-- The names given so far. -/
structure Claims where
  types : Owners
  schemas : Owners
  keys : Owners
  streamKeys : Owners

namespace Claims

/-- The types that every client has are given before any other name. -/
def initial : Claims := ⟨supportTypes.map (·, supportOwner), [], [], []⟩

/-- Gives the names of an endpoint: its marker, its error union unless it is a stream, its schema
and its key. -/
def add (c : Claims) (e : Endpoint) : Except Error Claims := do
  let owner := e.origin
  let types ← claim .typeName e.marker owner c.types
  let types ← if e.isStream then .ok types
    else claim .typeName e.unionName ("error union of " ++ owner) types
  let schemas ← claim .schemaConstant e.schema.text owner c.schemas
  if e.isStream then
    return ⟨types, schemas, c.keys, ← claim .endpointKey e.key.text owner c.streamKeys⟩
  else
    return ⟨types, schemas, ← claim .endpointKey e.key.text owner c.keys, c.streamKeys⟩

end Claims

/-- Gives the module names of groups. -/
def claimModules (groups : List String) : Except Error Owners :=
  groups.foldlM (fun owners g => claim .schemaModule (moduleName g) g owners) []

/-- Checks an error of an endpoint against the names of types. -/
def checkError (types : Owners) (e : Endpoint) (name : String) : Except Error Unit :=
  if name == invalidInput then
    .error (.collision .errorVariant name "input validation" e.origin)
  else
    match types.find? name with
    | some first => .error (.collision .typeName name first ("error identifier of " ++ e.origin))
    | none => .ok ()

/-- Checks that no name is given twice. -/
def checkNames (groups : Groups) (endpoints : List Endpoint) : Except Error Unit := do
  let _ ← claimModules groups.keys
  let claims ← endpoints.foldlM Claims.add Claims.initial
  (Endpoint.standard endpoints).forM fun e => e.errors.forM (checkError claims.types e)

/-! ### Placeholders -/

/-- The reports on the placeholders of an operation. -/
def placeholderReports (group : String) (op : Operation) (params : List String) : List Event :=
  let names := placeholders op.path
  let report (message field name : String) : Event :=
    ⟨.warn, message, [("group", group), ("operation", op.name), (field, name)]⟩
  ((names.filter fun n => !params.contains n).map
    (report "path placeholder has no params input" "placeholder")) ++
  ((params.filter fun p => !names.contains p).map
    (report "params input does not appear in the path" "param"))

/-- Reports the placeholders of all operations. -/
def reportPlaceholders {η : Type} (groups : Groups) : Traced η Unit :=
  groups.forM fun (group, ops) => ops.forM fun op => do
    let placement ← Traced.lift (Placement.ofOperation op)
    Traced.logAll (placeholderReports group op placement.params)

/-- Validates the endpoints of groups. -/
def validate {η : Type} (groups : Groups) (endpoints : List Endpoint) : Traced η Unit := do
  Traced.lift (checkNames groups endpoints)
  reportPlaceholders groups

end ApiContract.Client
