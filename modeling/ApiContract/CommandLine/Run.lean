import ApiContract.Client.Delivery
import ApiContract.CommandLine.Options
import ApiContract.Evaluator
import ApiContract.OpenApi.Document
import ApiContract.Spec.Reading

/-!
# Runs

A run makes everything that it is asked for before it writes anything: an error on the way there
leaves the files as they were. The document is written before the client.
-/

namespace ApiContract.CommandLine

/-- What a run makes. -/
structure Products where
  document : Option Document
  artifacts : Option Client.Artifacts

/-- The evaluator that the options ask for, given how programs behave. -/
def Options.evaluator (o : Options) (programs : Program.Behaviour) : Except Error Evaluator :=
  match o.evaluatorCommand with
  | some line => return Evaluator.command programs (← Evaluator.Command.parse line)
  | none => .ok Evaluator.schema

/-- The choices about a client that the options ask for. -/
def Options.client (o : Options) (s : Files.System) : Except Error Client.Options := do
  match o.boilerplate with
  | some dir => return ⟨o.errorsModule, (← Client.Artifacts.load s dir)⟩
  | none => return ⟨o.errorsModule, []⟩

/-- The document that the options ask for. -/
def makeDocument (programs : Program.Behaviour) (o : Options) (spec : ApiSpec) :
    Traced HookCall (Option Document) := do
  if o.openApi.isNone then return none
  let evaluator ← Traced.lift (o.evaluator programs)
  return some (← Document.ofSpec evaluator spec)

/-- The client that the options ask for. -/
def makeArtifacts (o : Options) (s : Files.System) (spec : ApiSpec) :
    Traced HookCall (Option Client.Artifacts) := do
  if o.output.isNone then return none
  let choices ← Traced.lift (o.client s)
  return some (← Client.compile spec.groups choices)

/-- Makes what the options ask for. Nothing is written. -/
def make (programs : Program.Behaviour) (o : Options) (s : Files.System) :
    Traced HookCall Products := do
  if o.output.isNone && o.openApi.isNone then Traced.fail (.config .nothingToGenerate)
  let spec ← Traced.lift (ApiSpec.load s o.spec)
  Traced.log .info "loaded specification"
    [("title", spec.title), ("groups", toString spec.groups.length),
      ("operations", toString spec.operations.length)]
  let document ← makeDocument programs o spec
  let artifacts ← makeArtifacts o s spec
  return ⟨document, artifacts⟩

/-- The format of the document in a file. -/
def Options.documentFormat (o : Options) (path : String) : DocumentFormat :=
  o.format.getD (.ofPath path)

/-- Writes what was made, the document first. -/
def Products.write (p : Products) (o : Options) : Files.Action Error Unit := do
  if let (some document, some path) := (p.document, o.openApi) then
    document.write (o.documentFormat path) path
  if let (some artifacts, some dir) := (p.artifacts, o.output) then
    artifacts.write dir

/-- What was made, as it is shown instead of being written. -/
def Products.preview (p : Products) (o : Options) : String :=
  (match p.document, o.openApi with
    | some document, some path => document.preview (o.documentFormat path) path
    | _, _ => "") ++
  match p.artifacts with
  | some artifacts => artifacts.preview
  | none => ""

/-- What a run comes to: what it printed, the files behind it, and whether it failed. -/
structure Outcome where
  printed : String
  system : Files.System
  result : Except Error Unit

/-- Runs with the options on files, given how programs behave. -/
def run (programs : Program.Behaviour) (o : Options) (s : Files.System) : Outcome :=
  match (make programs o s).result with
  | .error e => ⟨"", s, .error e⟩
  | .ok products =>
    if o.isDryRun then ⟨products.preview o, s, .ok ()⟩
    else
      let (result, s) := (products.write o).run s
      ⟨"", s, result⟩

end ApiContract.CommandLine
