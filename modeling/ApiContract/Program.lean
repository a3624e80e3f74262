import ApiContract.Error
import ApiContract.Text.Utf8

/-!
# Programs

What running a program comes to: its status and what it wrote. How programs behave is a function of
their name, their arguments and their input, so that whatever runs them stays a function too.
-/

namespace ApiContract.Program

/-- How a program ended. -/
inductive Status where
  | exited (code : Nat)
  | signalled (number : Nat)
  deriving DecidableEq, Repr

/-- Whether a program ended well. -/
def Status.isSuccess : Status → Bool
  | .exited code => code == 0
  | .signalled _ => false

/-- The signals that have names here. -/
def signals : List (Nat × String) := [
  (1, "HUP"), (2, "INT"), (3, "QUIT"), (4, "ILL"), (5, "TRAP"), (6, "ABRT"), (7, "BUS"), (8, "FPE"),
  (9, "KILL"), (10, "USR1"), (11, "SEGV"), (12, "USR2"), (13, "PIPE"), (14, "ALRM"), (15, "TERM")]

/-- The text of a status. -/
def Status.text : Status → String
  | .exited code => "exit status: " ++ toString code
  | .signalled number =>
    "signal: " ++ toString number ++
      match signals.lookup number with
      | some name => " (SIG" ++ name ++ ")"
      | none => ""

/-- What came of starting a program. -/
inductive Outcome where
  | notSpawned (e : FileError)
  | finished (status : Status) (output errors : ByteArray)

/-- How programs behave, given the name, the arguments and the text on the standard input. -/
abbrev Behaviour := String → List String → String → Outcome

/-- The text of what a program wrote. -/
def decodeOutput (bytes : ByteArray) : String := Text.decodeLossy bytes

end ApiContract.Program
