/-!
# Routes

The path of an operation names its parameters in braces.
-/

namespace ApiContract.Client

/-- A part of a text, by the places where it starts and where it ends. A place is the number of
bytes before it. -/
structure Span where
  start : Nat
  stop : Nat
  deriving DecidableEq, Repr

/-- The part of a text. -/
def Span.text (s : Span) (path : String) : String :=
  String.Pos.Raw.extract path ⟨s.start⟩ ⟨s.stop⟩

/-- The parts between braces of the characters from a place on. `start` is the place behind the last
opening brace, if no closing brace came since. -/
def bracedAux (start : Option Nat) (place : Nat) : List Char → List Span
  | [] => []
  | '\x7b' :: cs => bracedAux (some (place + 1)) (place + 1) cs
  | '\x7d' :: cs =>
    match start with
    | some first => ⟨first, place⟩ :: bracedAux none (place + 1) cs
    | none => bracedAux none (place + 1) cs
  | c :: cs => bracedAux start (place + c.utf8Size) cs

/-- The parts between braces of a path: what stands between an opening brace and the next brace if
that closes. -/
def braced (path : String) : List Span := bracedAux none 0 path.toList

/-- The names in braces of a path, in order and with repetitions; an empty one does not count. -/
def placeholders (path : String) : List String :=
  ((braced path).map fun s => s.text path).filter fun name => !name.isEmpty

end ApiContract.Client
