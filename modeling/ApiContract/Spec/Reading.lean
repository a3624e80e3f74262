import ApiContract.Files.System
import ApiContract.Format
import ApiContract.Json.Source
import ApiContract.Spec.Basic
import ApiContract.Yaml.Source

/-!
# Reading specifications

A specification is a text in one of the two formats; of a file, the name says which.
-/

namespace ApiContract.ApiSpec

/-- The specification that a text is in a format. -/
def ofText (format : DocumentFormat) (text : String) : Except Error ApiSpec :=
  match format with
  | .json => (Json.decodeText decode text).mapError fun f => .spec (.json f)
  | .yaml => (Yaml.decodeText decode text).mapError fun f => .spec (.yaml f)

/-- The specification in a file. -/
def load (s : Files.System) (path : String) : Except Error ApiSpec :=
  match s.readText path with
  | .ok text => ofText (.ofPath path) text
  | .error e => .error (.config (.unreadableSpec path e))

end ApiContract.ApiSpec
