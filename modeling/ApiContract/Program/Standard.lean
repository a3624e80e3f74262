import ApiContract.Program.Shell

/-!
# The programs that are at hand

A small set of programs by name: `cat`, `echo`, `tr`, `grep`, `sh`, `true` and `false`. No other
name can be started; files are not programs.
-/

namespace ApiContract.Program

/-- A program that ends with a status and has written a text. -/
def wrote (code : Nat) (output errors : String) : Outcome :=
  .finished (.exited code) output.toByteArray errors.toByteArray

/-- What a program says to an option that it does not know. -/
def unknownOption (program option : String) : Outcome :=
  wrote 1 "" (program ++ ": unrecognized option '" ++ option ++ "'\nTry '" ++ program ++
    " --help' for more information.\n")

/-- The lines of a text; a break at its end begins no further line. -/
def linesOf (s : String) : List (List Char) :=
  match (Text.splitBy (· == '\n') s.toList).reverse with
  | [] :: rest => rest.reverse
  | all => all.reverse

/-- Whether a list occurs in another without a gap. -/
def occursIn (needle : List Char) : List Char → Bool
  | [] => needle.isEmpty
  | c :: cs => needle.isPrefixOf (c :: cs) || occursIn needle cs

/-- The lines of a text that hold a pattern of ordinary characters. -/
def grep (pattern input : String) : Outcome :=
  match (linesOf input).filter (occursIn pattern.toList) with
  | [] => wrote 1 "" ""
  | found => wrote 0 (String.ofList (found.flatMap (· ++ ['\n']))) ""

/-- A text with the characters of one set replaced by those of another, the last of which repeats.
-/
def replaceChars (source target : List Char) (input : String) : String :=
  String.ofList (input.toList.map fun c =>
    match source.idxOf? c with
    | some i => (target[i]?).getD ((target.getLast?).getD c)
    | none => c)

/-- The files that programs can read, by path. -/
abbrev Files := String → Except FileError ByteArray

/-- What `cat` writes for its arguments one after another: the named files, with a dash for the
input, and a complaint for each that cannot be read. -/
def concatenate (files : Files) (input : String) :
    List String → (output errors : ByteArray) → (code : Nat) → Outcome
  | [], output, errors, code => .finished (.exited code) output errors
  | "-" :: rest, output, errors, code =>
    concatenate files "" rest (output ++ input.toByteArray) errors code
  | a :: rest, output, errors, code =>
    match files a with
    | .ok bytes => concatenate files input rest (output ++ bytes) errors code
    | .error e =>
      concatenate files input rest output
        (errors ++ ("cat: " ++ a ++ ": " ++ e.words ++ "\n").toByteArray) 1

/-- What `cat` does. -/
def cat (files : Files) (arguments : List String) (input : String) : Outcome :=
  match arguments.find? (·.startsWith "--") with
  | some a => unknownOption "cat" a
  | none =>
    concatenate files input (if arguments.isEmpty then ["-"] else arguments) .empty .empty 0

/-- What `tr` does. -/
def tr (arguments : List String) (input : String) : Outcome :=
  match arguments with
  | [source, target] => wrote 0 (replaceChars source.toList target.toList input) ""
  | _ :: _ :: c :: _ =>
    wrote 1 "" ("tr: extra operand '" ++ c ++ "'\nTry 'tr --help' for more information.\n")
  | [a] => wrote 1 "" ("tr: missing operand after '" ++ a ++ "'\n")
  | [] => wrote 1 "" "tr: missing operand\nTry 'tr --help' for more information.\n"

/-- What `grep` does with one pattern. -/
def grepWith (arguments : List String) (input : String) : Outcome :=
  match arguments with
  | [pattern] => grep pattern input
  | _ :: file :: _ =>
    if file.startsWith "--" then wrote 2 "" ("grep: unrecognized option '" ++ file ++ "'\n")
    else wrote 2 "" ("grep: " ++ file ++ ": No such file or directory\n")
  | [] => wrote 2 "" "Usage: grep [OPTION]... PATTERNS [FILE]...\n"

/-- What `sh` does: a script from the input, from an argument or from a file. -/
def shell (files : Files) (arguments : List String) (input : String) : Outcome :=
  match arguments with
  | "-s" :: "--" :: rest => Shell.run rest input ""
  | "-s" :: rest => Shell.run rest input ""
  | "-c" :: script :: _ :: rest => Shell.run rest script input
  | ["-c", script] => Shell.run [] script input
  | [] => Shell.run [] input ""
  | a :: rest =>
    if a.startsWith "-" then wrote 2 "" ("sh: 0: Illegal option " ++ a ++ "\n")
    else
      match files a with
      | .ok bytes => Shell.run rest (decodeOutput bytes) input
      | .error _ => wrote 2 "" ("sh: 0: cannot open " ++ a ++ ": No such file\n")

/-- The directories of the programs. -/
def directories : List String := ["/bin/", "/usr/bin/"]

/-- The name of a program without its directory. -/
def baseName (program : String) : String :=
  match directories.find? fun d => d.toList.isPrefixOf program.toList with
  | some d => String.ofList (program.toList.drop d.length)
  | none => program

/-- How the programs at hand behave, given the files that they can read. -/
def standard (files : Files) : Behaviour := fun program arguments input =>
  match baseName program with
  | "cat" => cat files arguments input
  | "echo" => wrote 0 (String.intercalate " " arguments ++ "\n") ""
  | "tr" => tr arguments input
  | "grep" => grepWith arguments input
  | "sh" => shell files arguments input
  | "true" => wrote 0 "" ""
  | "false" => wrote 1 "" ""
  | name =>
    if name.contains '/' then
      match files name with
      | .ok _ | .error .isDirectory => .notSpawned .permissionDenied
      | .error e => .notSpawned e
    else .notSpawned .notFound

/-- No files. -/
def noFiles : Files := fun _ => .error .notFound

end ApiContract.Program
