import ApiContract.Code.Token
import ApiContract.Error

/-!
# Identifiers

An identifier is one word that is not reserved. Reading one passes over blanks and comments around
it, so the text of an identifier may be shorter than the text that was read.
-/

namespace ApiContract.Code

/-- The words that are no identifiers. -/
def reservedWords : List String := [
  "_", "abstract", "as", "async", "await", "become", "box", "break", "const", "continue", "crate",
  "do", "dyn", "else", "enum", "extern", "false", "final", "fn", "for", "if", "impl", "in", "let",
  "loop", "macro", "match", "mod", "move", "mut", "override", "priv", "pub", "ref", "return",
  "Self", "self", "static", "struct", "super", "trait", "true", "try", "type", "typeof", "unsafe",
  "unsized", "use", "virtual", "where", "while", "yield"]

/-- A word in the generated code; a raw one is written with `r#` in front. -/
structure Identifier where
  isRaw : Bool
  name : String
  deriving DecidableEq, Repr

namespace Identifier

/-- An identifier as it stands in the code. -/
def text (i : Identifier) : String := if i.isRaw then "r#" ++ i.name else i.name

/-- A word that is not raw. -/
def plain (name : String) : Identifier := ⟨false, name⟩

/-- The identifier that a token is. -/
def ofToken? : Token → Option Identifier
  | .word true name => some ⟨true, name⟩
  | .word false name => if reservedWords.contains name then none else some ⟨false, name⟩
  | _ => none

/-- The identifier that a text is. -/
def parse? (s : String) : Option Identifier :=
  match tokens? s with
  | some [t] => ofToken? t
  | _ => none

/-- The identifier that a text has to be. -/
def parse (s : String) : Except Error Identifier :=
  match parse? s with
  | some i => .ok i
  | none => .error (.code (.notIdentifier s))

/-- A text is refused exactly when it is no identifier, and the error names it. -/
theorem parse_eq_error_iff (s : String) (e : Error) :
    parse s = .error e ↔ parse? s = none ∧ e = .code (.notIdentifier s) := by
  unfold parse
  cases parse? s with
  | some i => simp
  | none => simp [eq_comm]

end Identifier

end ApiContract.Code
