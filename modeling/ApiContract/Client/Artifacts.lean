import ApiContract.Client.Registry
import ApiContract.Client.Support

/-!
# Artifacts

The files of a client, in a fixed order: the generated modules, then the supplied files as they are.
A supplied file never takes the place of a generated one, except that the error module may be
supplied.
-/

namespace ApiContract.Client

/-- Files by their path below the directory of the client. -/
abbrev Artifacts := Table String String

/-- The path that error types are imported from unless another one is chosen. -/
def defaultErrorsModule : String := "crate::errors"

/-- The file of the error types. -/
def errorsFile : String := "errors.rs"

/-- What can be chosen about a client: the path that error types are imported from and the supplied
files. -/
structure Options where
  errorsModule : String
  supplied : Artifacts

namespace Options

/-- The usual choice. -/
def standard : Options := ⟨defaultErrorsModule, []⟩

/-- Whether the file of the error types is generated. -/
def generatesErrors (o : Options) : Bool :=
  o.errorsModule == defaultErrorsModule && !o.supplied.has errorsFile

/-- Whether the client has a module for error types. -/
def declaresErrors (o : Options) : Bool :=
  o.errorsModule == defaultErrorsModule || o.supplied.has errorsFile

/-- The modules that are always there, and the error module. -/
def ownModules (o : Options) : List String :=
  if o.declaresErrors then
    ["runtime", "errors", "schemas", "endpoints", "stream_endpoints", "dispatch"]
  else ["runtime", "schemas", "endpoints", "stream_endpoints", "dispatch"]

end Options

/-- The module that a file at the top is. -/
def moduleOfFile? (path : String) : Option String :=
  let cs := path.toList
  let suffix := ".rs".toList
  if cs.contains '/' || path == errorsFile || !suffix.isSuffixOf cs then none
  else some (String.ofList (cs.take (cs.length - suffix.length)))

/-- The modules that supplied files are. -/
def suppliedModules (supplied : Artifacts) : List String :=
  supplied.keys.filterMap moduleOfFile?

/-- Adds a module that is supplied to a list of modules. -/
def addModule (modules : List String) (name : String) : Except Error (List String) :=
  if name == "lib" || modules.contains name then .error (.config (.replacesModule name))
  else .ok (modules ++ [name])

/-- The modules of a client. -/
def modules (o : Options) : Except Error (List String) :=
  (suppliedModules o.supplied).foldlM addModule o.ownModules

/-- The file of the schemas of a group. -/
def groupFile (group : String) : String := "schemas/" ++ moduleName group ++ ".rs"

/-- Adds a supplied file. -/
def addSupplied (files : Artifacts) (file : String × String) : Except Error Artifacts :=
  if files.has file.1 then .error (.config (.collidesWithArtifact file.1))
  else .ok (files.insert file.1 file.2)

/-- The text of a module that may fail. -/
def textOf {η : Type} (m : Except Error Module) : Traced η String :=
  Traced.lift (m.map Module.text)

/-- Adds the schemas of the groups. -/
def addGroups {η : Type} : List (String × List Operation) → Artifacts → Traced η Artifacts
  | [], files => pure files
  | (group, ops) :: rest, files => do
    let text ← textOf (Module.ofGroup group ops)
    Traced.log .debug "compiled schema module"
      [("group", group), ("operations", toString ops.length)]
    addGroups rest (files.insert (groupFile group) text)

/-- The entry of the log for an endpoint. -/
def endpointEvent (e : Endpoint) : Event :=
  ⟨.debug, "compiled endpoint", [("group", e.group), ("operation", e.operation.name),
    ("key", e.key.text), ("marker", e.marker), ("stream", Json.boolText e.isStream)]⟩

/-- The files of the client of groups. -/
def compile {η : Type} (groups : Groups) (o : Options) : Traced η Artifacts := do
  let endpoints ← Traced.lift (Endpoint.ofGroups groups)
  validate groups endpoints
  let names ← Traced.lift (modules o)
  let root ← textOf (Module.ofModules names)
  let files : Artifacts := [("lib.rs", root), ("runtime.rs", Support.text)]
  let files ← if o.generatesErrors then do
      let errors ← textOf (Module.ofErrors (Endpoint.referencedErrors endpoints))
      pure (files.insert errorsFile errors)
    else pure files
  let schemas ← textOf (Module.ofSchemas groups.keys)
  let files ← addGroups groups (files.insert "schemas/mod.rs" schemas)
  Traced.logAll (endpoints.map endpointEvent)
  let registry ← textOf (Module.ofEndpoints o.errorsModule endpoints)
  let streams ← textOf (Module.ofStreams endpoints)
  let dispatch ← textOf (Module.ofDispatch endpoints)
  let files := files.insertAll [("endpoints.rs", registry), ("stream_endpoints.rs", streams),
    ("dispatch.rs", dispatch)]
  Traced.lift (o.supplied.foldlM addSupplied files)

end ApiContract.Client
