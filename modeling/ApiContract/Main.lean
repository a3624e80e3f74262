import ApiContract.CommandLine.Run
import ApiContract.Program.Standard

/-!
# The command

The outer layer: it shows a run the files that the run can reach, and carries out on the disk what
the run has changed.
-/

namespace ApiContract.CommandLine

open Files

/-! ### From the disk -/

/-- The path of a place. -/
def diskPath (place : Place) : String := "/" ++ String.intercalate "/" place

/-- What is on the disk at a place. -/
def entryAt (place : Place) : IO (Option Entry) := do
  try
    let found ← IO.FS.realPath (diskPath place)
    if ← found.isDir then return some .directory
    return some (.file (← IO.FS.readBinFile (diskPath place)))
  catch _ => return none

/-- A file system that knows also what is at a place. -/
def look (s : System) (place : Place) : IO System := do
  match ← entryAt place with
  | some entry => return { s with entries := s.entries.insert place entry }
  | none => return s

/-- A file system that knows also what is on the way along a path. -/
def lookAlong (s : System) (path : String) : IO System := do
  let mut place := if isAbsolute path then [] else s.home
  let mut s := s
  for name in names path do
    place := if name = "." then place else if name = ".." then place.dropLast else place ++ [name]
    s ← look s place
  return s

/-- A file system that knows also what is below a place. -/
partial def lookBelow (s : System) (place : Place) : IO System := do
  let s ← look s place
  unless s.hasDirectory place do return s
  (← (← IO.FS.realPath (diskPath place)).readDir).foldlM
    (fun s e => lookBelow s (place ++ [e.fileName])) s

/-- The files that the options name for reading, those that the evaluator may read included. -/
def lookAtSources (o : Options) (s : System) : IO System := do
  let words := o.evaluatorCommand.toList.flatMap Text.words
  let s ← words.foldlM lookAlong (← lookAlong s o.spec)
  match o.boilerplate with
  | none => return s
  | some dir =>
    let s ← lookAlong s dir
    match s.locate dir with
    | .ok place => lookBelow s place
    | .error _ => return s

/-- The paths that are written to. -/
def Products.targets (p : Products) (o : Options) : List String :=
  let document := if p.document.isSome then o.openApi.toList else []
  let artifacts := match p.artifacts, o.output with
    | some artifacts, some dir => artifacts.keys.map (Files.join dir)
    | _, _ => []
  (document ++ artifacts).flatMap fun path => [path, temporaryPath path]

/-! ### To the disk -/

/-- Puts an entry on the disk; a file as a whole. -/
def put (place : Place) : Entry → IO Unit
  | .directory => IO.FS.createDirAll (diskPath place)
  | .file bytes => do
    let temporary := diskPath place ++ "~"
    IO.FS.writeBinFile temporary bytes
    IO.FS.rename temporary (diskPath place)

/-- Whether two entries are the same. -/
def sameEntry : Entry → Option Entry → Bool
  | .directory, some .directory => true
  | .file a, some (.file b) => a.data == b.data
  | _, _ => false

/-- Carries out on the disk what distinguishes one file system from another. -/
def apply (before after : System) : IO Unit := do
  for (place, entry) in after.entries do
    unless sameEntry entry (before.entry? place) do put place entry
  for (place, _) in before.entries do
    unless (after.entry? place).isSome do IO.FS.removeFile (diskPath place)

/-! ### Words -/

/-- The name of the command. -/
def commandName : String := "apiscribe-gen"

/-- The version of the command. -/
def commandVersion : String := "0.1.0"

/-- How the command is used. -/
def usage : String := String.intercalate "\n" [
  "Usage: " ++ commandName ++ " [OPTIONS] --spec <SPEC>", "", "Options:",
  "  -s, --spec <SPEC>                    Specification file (.json, .yaml or .yml)",
  "  -o, --output <OUTPUT>                Output directory for generated client modules",
  "      --openapi <OPENAPI>              Output file for the OpenAPI document",
  "  -f, --format <FORMAT>                OpenAPI document format (json or yaml)",
  "      --evaluator-cmd <EVALUATOR_CMD>  Program evaluating validation expressions",
  "      --errors-module <ERRORS_MODULE>  Path that error types are imported from",
  "      --boilerplate <BOILERPLATE>      Directory of pass-through files",
  "      --dry-run                        Print generated output without writing files",
  "  -v, --verbose...                     Increase verbosity (-v, -vv, -vvv)",
  "  -h, --help                           Print help",
  "  -V, --version                        Print version"]

/-- The least level that is logged at a verbosity. -/
def leastLevel : Nat → Level
  | 0 => .warn
  | 1 => .info
  | 2 => .debug
  | _ => .trace

/-- The line of an entry of the log. -/
def logLine (e : Event) : String :=
  e.level.name ++ " " ++ e.message ++ String.join (e.fields.map fun f => " " ++ f.1 ++ "=" ++ f.2)

/-- Runs with the options on the disk. -/
def runOnDisk (o : Options) : IO UInt32 := do
  let home ← IO.FS.realPath "."
  let start ← lookAlong ⟨[], names home.toString⟩ home.toString
  let s ← lookAtSources o start
  let programs := Program.standard s.read
  let made := make programs o s
  for e in made.events (leastLevel o.verbosity) do IO.eprintln (logLine e)
  let targets := match made.result with
    | .ok products => products.targets o
    | .error _ => []
  let s ← targets.foldlM lookAlong s
  let outcome := run programs o s
  IO.print outcome.printed
  apply s outcome.system
  match outcome.result with
  | .ok () => return 0
  | .error e =>
    IO.eprintln ("Error: " ++ e.debug)
    return 1

end ApiContract.CommandLine

open ApiContract.CommandLine in
/-- Does what the words of the command line ask for. -/
def main (words : List String) : IO UInt32 := do
  match Command.ofWords words with
  | .ok (.run options) => runOnDisk options
  | .ok .help =>
    IO.println usage
    return 0
  | .ok .version =>
    IO.println (commandName ++ " " ++ commandVersion)
    return 0
  | .error e =>
    IO.eprintln ("error: " ++ e.message ++ "\n\n" ++ usage)
    return 2
