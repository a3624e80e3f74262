import ApiContract.Files.Path

/-!
# Document formats

Specifications are read and documents are written in one of two formats, chosen by the name of the
file unless the caller says otherwise.
-/

namespace ApiContract

/-- A format of documents. -/
inductive DocumentFormat where
  | json
  | yaml
  deriving DecidableEq, Repr

namespace DocumentFormat

/-- The name of a format. -/
def name : DocumentFormat → String
  | .json => "json"
  | .yaml => "yaml"

/-- The format of a name. -/
def ofName? (name : String) : Option DocumentFormat :=
  [json, yaml].find? fun f => f.name == name

/-- The extensions of YAML files. -/
def yamlExtensions : List String := ["yaml", "yml"]

/-- The format of a file: YAML by its extension, else JSON. -/
def ofPath (path : String) : DocumentFormat :=
  match Files.extension? path with
  | some ending => if yamlExtensions.contains ending then .yaml else .json
  | none => .json

end DocumentFormat

end ApiContract
