import ApiContract.Text.Class

/-!
# File paths

A path is text with slashes. Its parts are the names between them; empty parts and parts that are
one dot, other than the first, do not count.
-/

namespace ApiContract.Files

/-- A part of a path, and where it ends in the text. -/
structure Part where
  name : List Char
  stop : Nat
  deriving DecidableEq, Repr

/-- The parts of a text that starts at the given place, `name` being the characters of the first
one so far, reversed. -/
def partsAux (name : List Char) (place : Nat) : List Char → List Part
  | [] => [⟨name.reverse, place⟩]
  | c :: cs =>
    if c = '/' then ⟨name.reverse, place⟩ :: partsAux [] (place + 1) cs
    else partsAux (c :: name) (place + 1) cs

/-- The parts of a path that count. -/
def parts (path : String) : List Part :=
  match partsAux [] 0 path.toList with
  | [] => []
  | first :: rest =>
    (if first.name = [] then [] else [first]) ++
      rest.filter fun p => p.name ≠ [] && p.name ≠ ['.']

/-- Whether a path starts at the root. -/
def isAbsolute (path : String) : Bool := path.toList.head? == some '/'

/-- Whether a path ends with a dot as its last name, which is the directory itself. -/
def endsWithDot (path : String) : Bool :=
  match path.toList.reverse with
  | '.' :: '/' :: _ => true
  | _ => path == "."

/-- Whether a path can only lead to a directory, by the way it ends. -/
def namesDirectory (path : String) : Bool :=
  path.toList.getLast? == some '/' || endsWithDot path

/-- The last part of a path, if it names a file or directory by itself. -/
def lastName? (path : String) : Option Part :=
  match (parts path).getLast? with
  | some p => if p.name = ['.'] || p.name = ['.', '.'] then none else some p
  | none => none

/-- A name cut at its last dot: what stands before it and, unless that is nothing, what stands
behind it. -/
def cutName (name : List Char) : List Char × Option (List Char) :=
  if name.contains '.' then
    let ending := (name.reverse.takeWhile (· ≠ '.')).reverse
    let before := name.take (name.length - ending.length - 1)
    if before = [] then (name, none) else (before, some ending)
  else (name, none)

/-- The extension of the file that a path names: what stands behind the last dot of its name, unless
nothing stands before that dot. -/
def extension? (path : String) : Option String :=
  match lastName? path with
  | some p => (cutName p.name).2.map String.ofList
  | none => none

/-- A path with another extension. A path that names no file stays as it is. -/
def withExtension (path ending : String) : String :=
  match lastName? path with
  | some p =>
    let stem := (cutName p.name).1
    String.ofList (path.toList.take (p.stop - p.name.length + stem.length)) ++ "." ++ ending
  | none => path

/-- The path of the directory that holds what a path names. The root and the empty path have
none. -/
def parent? (path : String) : Option String :=
  match (parts path).reverse with
  | [] => none
  | [_] => some (if isAbsolute path then "/" else "")
  | _ :: before :: _ => some (String.ofList (path.toList.take before.stop))

/-- A path below a directory; an absolute path stays as it is. -/
def join (dir path : String) : String :=
  if isAbsolute path then path
  else if dir.isEmpty || dir.toList.getLast? == some '/' then dir ++ path
  else dir ++ "/" ++ path

end ApiContract.Files
