import ApiContract.Json.Draft
import ApiContract.Program
import ApiContract.Trace

/-!
# Evaluation of schema expressions

An expression is text that an evaluator turns into a JSON schema. The schema evaluator takes the
text for the schema itself; a command evaluator hands it to a program. Either way the marker
`$schema` at the top is dropped. An evaluator keeps nothing between calls.
-/

namespace ApiContract

/-- The answer of an evaluator and what it logs. -/
structure Answer where
  events : List Event
  schema : Except Error Json

/-- An evaluator: what it answers for an expression and the shared definitions. -/
abbrev Evaluator := String → Option String → Answer

namespace Evaluator

/-- The end of an expression that only says what the input's flag says. -/
def optionalSuffix : String := ".optional()"

/-- An expression as an evaluator gets it: without the blanks at its ends and one mark of being
optional. -/
def prepare (expression : String) : String :=
  let cs := Text.trimBy Text.isBlank expression.toList
  let suffix := optionalSuffix.toList
  if suffix.isSuffixOf cs then String.ofList (cs.take (cs.length - suffix.length))
  else String.ofList cs

/-- A schema without the marker at its top. -/
def stripMarker : Json → Json
  | .object members => .object (Table.erase "$schema" members)
  | other => other

/-- The evaluator of expressions that are schemas. -/
def schema : Evaluator := fun expression _ =>
  ⟨[], match Json.parse expression with
    | .ok v => .ok (stripMarker v)
    | .error f => .error (.evaluation expression f.message)⟩

/-- A program with its arguments. -/
structure Command where
  program : String
  arguments : List String
  deriving DecidableEq, Repr

/-- The command of a line: words separated by blanks. -/
def Command.parse (line : String) : Except Error Command :=
  match Text.words line with
  | [] => .error (.config .emptyCommand)
  | program :: arguments => .ok ⟨program, arguments⟩

/-- The schema in what a program did: it has to end well and print one JSON text. -/
def schemaOf (program : String) : Program.Outcome → Except String Json
  | .notSpawned e => .error ("failed to spawn '" ++ program ++ "': " ++ e.message)
  | .finished status output errors =>
    if status.isSuccess then
      match Json.parse (Program.decodeOutput output) with
      | .ok v => .ok (stripMarker v)
      | .error f => .error ("evaluator printed invalid JSON: " ++ f.message)
    else
      .error ("evaluator exited with " ++ status.text ++ ": " ++
        Text.trim (Program.decodeOutput errors))

/-- The evaluator that runs a command for every expression, given how programs behave. The shared
definitions are named behind the command's own arguments. -/
def command (programs : Program.Behaviour) (c : Command) : Evaluator :=
  fun expression definitions =>
  let arguments := c.arguments ++
    match definitions with
    | some d => ["--definitions", d]
    | none => []
  ⟨[⟨.trace, "spawning evaluator", [("program", c.program)]⟩],
    match schemaOf c.program (programs c.program arguments expression) with
    | .ok v => .ok v
    | .error message => .error (.evaluation expression message)⟩

end Evaluator

end ApiContract
