import ApiContract.Files.System

/-!
# Writing files as a whole

A text is written under a temporary name beside its file and then moved there, so that a file never
holds a part of what was to be written.
-/

namespace ApiContract.Files

/-- The temporary name beside a file. -/
def temporaryPath (path : String) : String := withExtension path "tmp"

/-- Makes the directory that a file is to be in. -/
def makeParent (path : String) : Action Error Unit :=
  match parent? path with
  | some parent =>
    if parent.isEmpty then pure ()
    else (makeDirectories parent).adapt (Error.write parent)
  | none => pure ()

/-- Writes a text to a file as a whole, with the directories above it. -/
def writeAtomically (path text : String) : Action Error Unit := do
  let temporary := temporaryPath path
  makeParent path
  change (Error.write temporary) fun s => s.write temporary text.toByteArray
  change (Error.write path) fun s => s.rename temporary path

end ApiContract.Files
