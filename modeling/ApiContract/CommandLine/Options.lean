import ApiContract.Client.Artifacts
import ApiContract.Format

/-!
# Command line

What a run is asked to do, as the words of the command line say it. An option has a value behind it,
in the next word or in its own; a switch has none. Every option is given at most once.
-/

namespace ApiContract.CommandLine

/-- What a run is asked to do: the file of the specification, the directory of the client, the file
of the document and its format, the command that evaluates expressions, the path that error types
are imported from, the directory of supplied files, whether to show instead of writing, and how much
to log. -/
structure Options where
  spec : String
  output : Option String
  openApi : Option String
  format : Option DocumentFormat
  evaluatorCommand : Option String
  errorsModule : String
  boilerplate : Option String
  isDryRun : Bool
  verbosity : Nat
  deriving DecidableEq, Repr

/-- What is wrong with the words of a command line. -/
inductive UsageError where
  | unexpectedWord (word : String)
  | missingValue (option : String)
  | unexpectedValue (switch : String)
  | repeated (name : String)
  | invalidValue (option value : String)
  | missingOption (option : String)
  deriving DecidableEq, Repr

/-- The text of a usage error. -/
def UsageError.message : UsageError → String
  | .unexpectedWord word => "unexpected argument '" ++ word ++ "' found"
  | .missingValue option => "a value is required for '--" ++ option ++ "' but none was supplied"
  | .unexpectedValue switch => "unexpected value for '--" ++ switch ++ "' found"
  | .repeated name => "the argument '--" ++ name ++ "' cannot be used multiple times"
  | .invalidValue option value => "invalid value '" ++ value ++ "' for '--" ++ option ++ "'"
  | .missingOption option => "the argument '--" ++ option ++ "' was not provided"

/-- What a command line asks for. -/
inductive Command where
  | run (options : Options)
  | help
  | version
  deriving DecidableEq, Repr

/-! ### Names -/

/-- The options with values, and the letters that stand for them. -/
def optionNames : List (String × Option Char) := [
  ("spec", some 's'), ("output", some 'o'), ("openapi", none), ("format", some 'f'),
  ("evaluator-cmd", none), ("errors-module", none), ("boilerplate", none)]

/-- The switches, and the letters that stand for them. -/
def switchNames : List (String × Option Char) := [
  ("dry-run", none), ("verbose", some 'v'), ("help", some 'h'), ("version", some 'V')]

/-- The options that may have an empty value. -/
def mayBeEmpty : List String := ["evaluator-cmd", "errors-module"]

/-- The switch that may be repeated. -/
def verboseSwitch : String := "verbose"

/-- The name that a letter stands for. -/
def nameOf? (names : List (String × Option Char)) (letter : Char) : Option String :=
  (names.find? fun n => n.2 == some letter).map Prod.fst

/-! ### Words -/

/-- What the words so far gave: the values of options, and the switches. -/
structure Given where
  values : Table String String
  switches : List String

namespace Given

/-- Takes the value of an option. -/
def take (g : Given) (option value : String) : Except UsageError Given :=
  if g.values.has option then .error (.repeated option)
  else if value.isEmpty && !mayBeEmpty.contains option then .error (.invalidValue option value)
  else if option == "format" && (DocumentFormat.ofName? value).isNone then
    .error (.invalidValue option value)
  else .ok { g with values := g.values.insert option value }

/-- Takes a switch. -/
def toggle (g : Given) (switch : String) : Except UsageError Given :=
  if switch ≠ verboseSwitch ∧ g.switches.contains switch then .error (.repeated switch)
  else .ok { g with switches := switch :: g.switches }

/-- Whether nothing behind these words counts. -/
def isComplete (g : Given) : Bool :=
  g.switches.contains "help" || g.switches.contains "version"

end Given

/-- Whether a word is not a value. -/
def isOptionLike (word : String) : Bool := word.startsWith "-" && word ≠ "-"

/-- What a word gives: something at once, or the option whose value is the next word. -/
abbrev Effect := Given × Option String

/-- Takes letters behind one dash; what follows that of an option is its value. -/
def takeLetters (g : Given) : List Char → Except UsageError Effect
  | [] => .ok (g, none)
  | letter :: letters =>
    match nameOf? optionNames letter, nameOf? switchNames letter with
    | some option, _ =>
      match letters with
      | [] => .ok (g, some option)
      | '=' :: value => do return ((← g.take option (String.ofList value)), none)
      | value => do return ((← g.take option (String.ofList value)), none)
    | none, some switch => do
      let g ← g.toggle switch
      if g.isComplete then return (g, none)
      takeLetters g letters
    | none, none => .error (.unexpectedWord (String.ofList ['-', letter]))

/-- Takes a name behind two dashes, with or without its value. -/
def takeName (g : Given) (name : String) (value? : Option String) : Except UsageError Effect :=
  if (optionNames.lookup name).isSome then
    match value? with
    | some value => do return ((← g.take name value), none)
    | none => .ok (g, some name)
  else if (switchNames.lookup name).isSome then
    if value?.isSome then .error (.unexpectedValue name)
    else do return ((← g.toggle name), none)
  else .error (.unexpectedWord ("--" ++ name))

/-- Takes a word that is not the value of an option before it. -/
def takeWord (g : Given) (word : String) : Except UsageError Effect :=
  match word.toList with
  | '-' :: '-' :: cs =>
    let name := String.ofList (cs.takeWhile (· ≠ '='))
    match cs.dropWhile (· ≠ '=') with
    | [] => takeName g name none
    | _ :: value => takeName g name (some (String.ofList value))
  | '-' :: letter :: letters => takeLetters g (letter :: letters)
  | _ => .error (.unexpectedWord word)

/-- Takes words, the first of which may be the value of an option. -/
def takeWords : Effect → List String → Except UsageError Given
  | (g, none), [] => .ok g
  | (_, some option), [] => .error (.missingValue option)
  | (g, some option), word :: words => do
    if isOptionLike word then throw (.missingValue option)
    takeWords ((← g.take option word), none) words
  | (g, none), word :: words => do
    if word = "--" then
      match words with
      | [] => return g
      | stray :: _ => throw (.unexpectedWord stray)
    let effect ← takeWord g word
    if effect.1.isComplete then return effect.1
    takeWords effect words

/-- What the words of a command line ask for. -/
def Command.ofWords (words : List String) : Except UsageError Command := do
  let g ← takeWords (⟨[], []⟩, none) words
  if g.switches.contains "help" then return .help
  if g.switches.contains "version" then return .version
  match g.values.find? "spec" with
  | none => throw (.missingOption "spec")
  | some spec =>
    return .run {
      spec
      output := g.values.find? "output"
      openApi := g.values.find? "openapi"
      format := (g.values.find? "format").bind DocumentFormat.ofName?
      evaluatorCommand := g.values.find? "evaluator-cmd"
      errorsModule := (g.values.find? "errors-module").getD Client.defaultErrorsModule
      boilerplate := g.values.find? "boilerplate"
      isDryRun := g.switches.contains "dry-run"
      verbosity := g.switches.count verboseSwitch }

end ApiContract.CommandLine
