import ApiContract.Client.Artifacts
import ApiContract.Files.Atomic

/-!
# Files of a client

Where supplied files come from and where the files of a client go to.
-/

namespace ApiContract.Client

/-- The files below a directory behind those that were found before: their paths from the root of
the search, which are their keys, and the paths that lead to them. A bound on the depth is given. -/
def collectFiles (s : Files.System) (root : String) :
    Nat → String → List (String × String) → Except Error (List (String × String))
  | 0, _, found => return found
  | n + 1, dir, found =>
    match s.list dir with
    | .error e => throw (.config (.unreadableDirectory dir e))
    | .ok names =>
      names.foldlM (fun found name =>
        let path := Files.join dir name
        if s.isDirectory path then collectFiles s root n path found
        else match Files.namesBehind? root path with
          | some names => return found ++ [(String.intercalate "/" names, path)]
          | none => return found) found

/-- A supplied file: its key and its text. -/
def suppliedFile (s : Files.System) (file : String × String) : Except Error (String × String) :=
  match s.readText file.2 with
  | .ok text => .ok (file.1, text)
  | .error e => .error (.config (.unreadableBoilerplate file.2 e))

namespace Artifacts

/-- The supplied files below a directory, sorted by their paths there. -/
def load (s : Files.System) (dir : String) : Except Error Artifacts := do
  let files ← collectFiles s dir (s.depth + 1) dir []
  let sorted := files.mergeSort fun a b => a.1 ≤ b.1
  return Table.ofList (← sorted.mapM (suppliedFile s))

/-- Writes the files of a client below a directory, in order. -/
def write (artifacts : Artifacts) (dir : String) : Files.Action Error Unit :=
  artifacts.forM fun (name, text) => Files.writeAtomically (Files.join dir name) text

/-- The files of a client as they are shown instead of being written. -/
def preview (artifacts : Artifacts) : String :=
  String.join (artifacts.map fun (name, text) => "=== " ++ name ++ " ===\n" ++ text ++ "\n\n")

end Artifacts

end ApiContract.Client
