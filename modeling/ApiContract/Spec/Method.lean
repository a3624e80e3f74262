import ApiContract.Decode

/-!
# HTTP methods

A method is written in capitals; specifications may also write it in small letters, which is how it
names a member of a path in the document.
-/

namespace ApiContract

/-- The HTTP methods of operations. -/
inductive Method where
  | get
  | post
  | put
  | patch
  | delete
  | head
  | options
  deriving DecidableEq, Repr

namespace Method

/-- Every method. -/
def all : List Method := [.get, .post, .put, .patch, .delete, .head, .options]

/-- The name in capitals. -/
def name : Method → String
  | .get => "GET"
  | .post => "POST"
  | .put => "PUT"
  | .patch => "PATCH"
  | .delete => "DELETE"
  | .head => "HEAD"
  | .options => "OPTIONS"

/-- The name in small letters, the key of the method within a path of the document. -/
def pathKey : Method → String
  | .get => "get"
  | .post => "post"
  | .put => "put"
  | .patch => "patch"
  | .delete => "delete"
  | .head => "head"
  | .options => "options"

/-- The method of a name in capitals. -/
def ofName? (s : String) : Option Method := all.find? fun m => m.name == s

/-- The names that a specification may use, in the order in which messages list them. -/
def specNames : List String := all.flatMap fun m => [m.name, m.pathKey]

/-- The method of a name in capitals or small letters. -/
def ofSpecName? (s : String) : Option Method := all.find? fun m => m.name == s || m.pathKey == s

/-- Reads a method of a specification. -/
def decode {ν ε : Type} [Decode.Source ν ε] (v : ν) : Except ε Method := do
  return (ofSpecName? (← Decode.Source.choice specNames v)).getD .get

/-- The JSON value of a method. -/
def toJson (m : Method) : Json := .string m.name

/-- A method is known by its name. -/
theorem ofName?_name (m : Method) : ofName? m.name = some m := by
  cases m <;> decide

/-- Different methods have different keys. -/
theorem pathKey_injective {m n : Method} (h : m.pathKey = n.pathKey) : m = n := by
  cases m <;> cases n <;> simp_all [pathKey]

/-- Different methods have different names. -/
theorem name_injective {m n : Method} (h : m.name = n.name) : m = n := by
  cases m <;> cases n <;> simp_all [name]

end Method

end ApiContract
