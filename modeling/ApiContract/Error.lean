import ApiContract.Json.Fault
import ApiContract.Yaml.Fault

/-!
# Errors

Every way in which a run can end without its result. An error is its cause; `Error.message` words
it for people, `Error.debug` shows its parts.
-/

namespace ApiContract

/-! ### Files -/

/-- Why an operation on files failed. -/
inductive FileError where
  | notFound
  | permissionDenied
  | busy
  | alreadyExists
  | notDirectory
  | isDirectory
  | invalidName
  | nameTooLong
  | directoryNotEmpty
  deriving DecidableEq, Repr

namespace FileError

/-- The number of an error. -/
def code : FileError → Nat
  | .notFound => 2
  | .permissionDenied => 13
  | .busy => 16
  | .alreadyExists => 17
  | .notDirectory => 20
  | .isDirectory => 21
  | .invalidName => 22
  | .nameTooLong => 36
  | .directoryNotEmpty => 39

/-- The words for an error. -/
def words : FileError → String
  | .notFound => "No such file or directory"
  | .permissionDenied => "Permission denied"
  | .busy => "Device or resource busy"
  | .alreadyExists => "File exists"
  | .notDirectory => "Not a directory"
  | .isDirectory => "Is a directory"
  | .invalidName => "file name contained an unexpected NUL byte"
  | .nameTooLong => "File name too long"
  | .directoryNotEmpty => "Directory not empty"

/-- The kind of an error. -/
def kind : FileError → String
  | .notFound => "NotFound"
  | .permissionDenied => "PermissionDenied"
  | .busy => "ResourceBusy"
  | .alreadyExists => "AlreadyExists"
  | .notDirectory => "NotADirectory"
  | .isDirectory => "IsADirectory"
  | .invalidName => "InvalidInput"
  | .nameTooLong => "InvalidFilename"
  | .directoryNotEmpty => "DirectoryNotEmpty"

/-- The text of an error. -/
def message (e : FileError) : String :=
  match e with
  | .invalidName => e.words
  | _ => e.words ++ " (os error " ++ toString e.code ++ ")"

/-- The parts of an error. -/
def debug (e : FileError) : String :=
  match e with
  | .invalidName => "Error \x7b kind: InvalidInput, message: " ++ Text.quoted e.words ++ " \x7d"
  | _ => "Os \x7b code: " ++ toString e.code ++ ", kind: " ++ e.kind ++ ", message: " ++
    Text.quoted e.words ++ " \x7d"

end FileError

/-- Why a file could not be read as text. -/
inductive ReadError where
  | file (e : FileError)
  | notUtf8
  deriving DecidableEq, Repr

/-- The text of a failed read. -/
def ReadError.message : ReadError → String
  | .file e => e.message
  | .notUtf8 => "stream did not contain valid UTF-8"

/-! ### Configuration -/

/-- What is wrong with the way in which the program was called. -/
inductive ConfigError where
  | emptyCommand
  | nothingToGenerate
  | replacesModule (module : String)
  | collidesWithArtifact (path : String)
  | unreadableSpec (path : String) (e : ReadError)
  | unreadableDirectory (path : String) (e : FileError)
  | unreadableBoilerplate (path : String) (e : ReadError)
  deriving DecidableEq, Repr

/-- The text of a configuration error. -/
def ConfigError.message : ConfigError → String
  | .emptyCommand => "evaluator command is empty"
  | .nothingToGenerate => "nothing to generate: pass --output and/or --openapi"
  | .replacesModule module =>
    "boilerplate file '" ++ module ++ ".rs' would replace a generated module"
  | .collidesWithArtifact path =>
    "boilerplate file '" ++ path ++ "' collides with a generated artifact"
  | .unreadableSpec path e => "cannot read spec file '" ++ path ++ "': " ++ e.message
  | .unreadableDirectory path e => "cannot read directory '" ++ path ++ "': " ++ e.message
  | .unreadableBoilerplate path e => "cannot read boilerplate '" ++ path ++ "': " ++ e.message

/-! ### Code -/

/-- Why no code could be generated. -/
inductive CodeError where
  | notIdentifier (text : String)
  | notPath (text : String)
  /-- The import of the error types is malformed at the point where a statement has to end. -/
  | importEnd
  /-- The import of the error types is malformed at a point where a name has to stand. -/
  | importName
  deriving DecidableEq, Repr

/-- The text of a code error. -/
def CodeError.message : CodeError → String
  | .notIdentifier text => "'" ++ text ++ "' is not a valid Rust identifier"
  | .notPath text => "'" ++ text ++ "' is not a valid Rust path"
  | .importEnd => "Generated code is invalid: expected `;`"
  | .importName =>
    "Generated code is invalid: expected one of: identifier, `self`, `super`, `crate`, `try`, " ++
      "`*`, curly braces"

/-! ### All errors -/

/-- What two operations both produce. -/
inductive NameKind where
  | schemaModule
  | typeName
  | schemaConstant
  | endpointKey
  | errorVariant
  deriving DecidableEq, Repr

/-- The words for a kind of name. -/
def NameKind.words : NameKind → String
  | .schemaModule => "schema module"
  | .typeName => "type name"
  | .schemaConstant => "schema constant"
  | .endpointKey => "endpoint key"
  | .errorVariant => "error variant"

/-- Why the text of a specification could not be read. -/
inductive SpecError where
  | json (fault : Json.Fault)
  | yaml (fault : Yaml.Fault)
  deriving Repr

/-- The text of a specification error. -/
def SpecError.message : SpecError → String
  | .json fault => fault.message
  | .yaml fault => fault.message

/-- Why a run failed. -/
inductive Error where
  | spec (e : SpecError)
  | unknownSource (field operation source : String)
  | evaluation (expression message : String)
  | code (e : CodeError)
  | collision (kind : NameKind) (name first second : String)
  | write (path : String) (e : FileError)
  | config (e : ConfigError)
  deriving Repr

namespace Error

/-- The text of an error. -/
def message : Error → String
  | .spec e => "Failed to parse API specification: " ++ e.message
  | .unknownSource field operation source =>
    "Unknown input source '" ++ source ++ "' for field '" ++ field ++ "' in operation '" ++
      operation ++ "'"
  | .evaluation expression message =>
    "Failed to evaluate expression `" ++ expression ++ "`: " ++ message
  | .code e => "Code generation failed: " ++ e.message
  | .collision kind name first second =>
    "Naming collision: " ++ kind.words ++ " '" ++ name ++ "' is produced by both '" ++ first ++
      "' and '" ++ second ++ "'"
  | .write path e => "Failed to write output file '" ++ path ++ "': " ++ e.message
  | .config e => "Invalid configuration: " ++ e.message

/-- A constructor with named parts. -/
def debugRecord (name : String) (parts : List (String × String)) : String :=
  name ++ " \x7b " ++ String.intercalate ", " (parts.map fun p => p.1 ++ ": " ++ p.2) ++ " \x7d"

/-- The parts of an error, as the command line reports it. -/
def debug : Error → String
  | .spec e => "ParseError(" ++ Text.quoted e.message ++ ")"
  | .unknownSource field operation source =>
    debugRecord "UnknownInputSource" [("field", Text.quoted field),
      ("operation", Text.quoted operation), ("source_name", Text.quoted source)]
  | .evaluation expression message =>
    debugRecord "Evaluation" [("expression", Text.quoted expression),
      ("message", Text.quoted message)]
  | .code e => "CodeGenError(" ++ Text.quoted e.message ++ ")"
  | .collision kind name first second =>
    debugRecord "NamingCollision" [("kind", Text.quoted kind.words), ("name", Text.quoted name),
      ("first", Text.quoted first), ("second", Text.quoted second)]
  | .write path e => debugRecord "WriteError" [("path", Text.quoted path), ("source", e.debug)]
  | .config e => "ConfigError(" ++ Text.quoted e.message ++ ")"

end Error

end ApiContract
