import ApiContract.Spec.Basic
import ApiContract.Error

/-!
# Where inputs travel

Every input of an operation that is not internal goes to one place of the HTTP request.
-/

namespace ApiContract.Client

/-- The names of inputs by their place in the request, each list in order of declaration. -/
structure Placement where
  headers : List String
  query : List String
  body : List String
  params : List String
  deriving DecidableEq, Repr

namespace Placement

/-- No inputs. -/
def none : Placement := ⟨[], [], [], []⟩

/-- The number of placed inputs. -/
def size (p : Placement) : Nat :=
  p.headers.length + p.query.length + p.body.length + p.params.length

/-- Whether no input is placed. -/
def isEmpty (p : Placement) : Bool := p.size == 0

/-- A placement with one more name in front. -/
def cons (name : String) (binding : Binding) (p : Placement) : Placement :=
  match binding with
  | .location .header => { p with headers := name :: p.headers }
  | .location .query => { p with query := name :: p.query }
  | .location .path => { p with params := name :: p.params }
  | .body => { p with body := name :: p.body }
  | .excluded | .unknown _ => p

/-- The placement of inputs of an operation; the first one with an unknown source is an error. -/
def ofInputs (operation : String) : List (String × InputField) → Except Error Placement
  | [] => .ok none
  | (name, field) :: rest =>
    match field.source.binding with
    | .unknown raw => .error (.unknownSource name operation raw)
    | binding => return (← ofInputs operation rest).cons name binding

/-- The placement of the inputs of an operation. -/
def ofOperation (op : Operation) : Except Error Placement := ofInputs op.name op.inputs

end Placement

end ApiContract.Client
