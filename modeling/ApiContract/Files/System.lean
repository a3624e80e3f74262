import ApiContract.Error
import ApiContract.Files.Path
import ApiContract.Table

/-!
# Files and directories

A file system is the table of its files and directories by the names that lead to them from the
root, which is always there. A path that does not start at the root starts at the home directory.
What an operation changed before an error stays changed.
-/

namespace ApiContract.Files

/-- What a path leads to. -/
inductive Entry where
  | file (bytes : ByteArray)
  | directory

/-- The names that lead from the root to a file or directory. -/
abbrev Place := List String

/-- The files and directories, and the directory that paths start at. -/
structure System where
  entries : Table Place Entry
  home : Place

/-- An operation on a file system that may fail. -/
abbrev Action (ε α : Type) := ExceptT ε (StateM System) α

/-! ### Following a path -/

/-- The names in a path. -/
def names (path : String) : List String := (parts path).map fun p => String.ofList p.name

/-- The names by which a path goes on behind another one, if it starts with that one. -/
def namesBehind? (start path : String) : Option (List String) :=
  if isAbsolute start = isAbsolute path ∧ names start <+: names path then
    some ((names path).drop (names start).length)
  else none

/-- The most bytes that a name may have. -/
def maxNameSize : Nat := 255

namespace System

/-- What is at a place. -/
def entry? (s : System) (place : Place) : Option Entry :=
  if place = [] then some .directory else s.entries.find? place

/-- Whether a directory is at a place. -/
def hasDirectory (s : System) (place : Place) : Bool :=
  match s.entry? place with
  | some .directory => true
  | _ => false

/-- The place that a name leads to from a directory. -/
def follow (s : System) (place : Place) (name : String) : Except FileError Place :=
  match s.entry? place with
  | none => .error .notFound
  | some (.file _) => .error .notDirectory
  | some .directory =>
    if maxNameSize < name.utf8ByteSize then .error .nameTooLong
    else if name = "." then .ok place
    else if name = ".." then .ok place.dropLast
    else .ok (place ++ [name])

/-- The place that a path leads to. All but the last name have to lead to directories. -/
def locate (s : System) (path : String) : Except FileError Place :=
  if path.toList.contains '\x00' then .error .invalidName
  else if path.isEmpty then .error .notFound
  else (names path).foldlM s.follow (if isAbsolute path then [] else s.home)

/-! ### Reading -/

/-- The bytes of the file that a path leads to. -/
def read (s : System) (path : String) : Except FileError ByteArray := do
  match s.entry? (← s.locate path) with
  | some (.file bytes) => if namesDirectory path then throw .notDirectory else return bytes
  | some .directory => throw .isDirectory
  | none => throw .notFound

/-- The text of the file that a path leads to. -/
def readText (s : System) (path : String) : Except ReadError String :=
  match s.read path with
  | .error e => .error (.file e)
  | .ok bytes =>
    match String.fromUTF8? bytes with
    | some text => .ok text
    | none => .error .notUtf8

/-- What is below a place: the names that lead there from it, in no particular order. -/
def below (s : System) (place : Place) : List (Place × Entry) :=
  s.entries.filterMap fun e =>
    if place.isPrefixOf e.1 && e.1.length ≠ place.length then
      some (e.1.drop place.length, e.2)
    else none

/-- The names of what is right below a place, in the order of the table. -/
def children (s : System) (place : Place) : List String :=
  s.entries.filterMap fun e => if e.1.dropLast = place then e.1.getLast? else none

/-- The names in the directory that a path leads to, in no particular order. -/
def list (s : System) (path : String) : Except FileError (List String) := do
  let place ← s.locate path
  match s.entry? place with
  | some .directory => return s.children place
  | some (.file _) => throw .notDirectory
  | none => throw .notFound

/-- Whether a path leads to a directory. -/
def isDirectory (s : System) (path : String) : Bool :=
  (s.locate path).toOption.any s.hasDirectory

/-- The most names that lead to a file or directory. -/
def depth (s : System) : Nat := (s.entries.map fun e => e.1.length).foldr max 0

/-! ### Changing -/

/-- Makes a directory. -/
def makeDirectory (s : System) (path : String) : Except FileError System := do
  let place ← s.locate path
  match s.entry? place with
  | some _ => throw .alreadyExists
  | none => return { s with entries := s.entries.insert place .directory }

/-- Writes a file, the old content of which is lost. -/
def write (s : System) (path : String) (bytes : ByteArray) : Except FileError System := do
  let place ← s.locate path
  match s.entry? place with
  | some .directory => throw .isDirectory
  | _ =>
    if namesDirectory path then throw .isDirectory
    return { s with entries := s.entries.insert place (.file bytes) }

/-- Moves a file to another path; a file there is replaced. -/
def rename (s : System) (source target : String) : Except FileError System := do
  let old ← s.locate source
  match s.entry? old with
  | none => throw .notFound
  | some .directory => throw .isDirectory
  | some (.file bytes) =>
    let place ← s.locate target
    match s.entry? place with
    | some .directory =>
      throw (if endsWithDot target then .busy
        else if namesDirectory target then .notDirectory else .isDirectory)
    | none => if endsWithDot target then throw .notFound
    | some (.file _) => pure ()
    if namesDirectory target then throw .notDirectory
    return { s with entries := (s.entries.erase old).insert place (.file bytes) }

end System

/-! ### Actions -/

/-- An operation that changes the file system, or leaves it as it was when it fails. -/
def change {ε : Type} (wrap : FileError → ε) (f : System → Except FileError System) :
    Action ε Unit := do
  match f (← get) with
  | .ok s => set s
  | .error e => throw (wrap e)

/-- Makes the directory of a path, the last names first, and those above it where they are missing.
A directory that is there already is as good as a new one. -/
def makeNames (isFromRoot : Bool) : List String → Action FileError Unit
  | [] => return ()
  | name :: above => do
    let path := (if isFromRoot then "/" else "") ++ String.intercalate "/" (name :: above).reverse
    let isThere (s : System) : Bool := (s.locate path).toOption.any s.hasDirectory
    match (← get).makeDirectory path with
    | .ok s => set s
    | .error .notFound =>
      makeNames isFromRoot above
      match (← get).makeDirectory path with
      | .ok s => set s
      | .error e => unless isThere (← get) do throw e
    | .error e => unless isThere (← get) do throw e

/-- Makes the directory that a path leads to, with all above it. -/
def makeDirectories (path : String) : Action FileError Unit :=
  makeNames (isAbsolute path) (names path).reverse

end ApiContract.Files
