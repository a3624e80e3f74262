import ApiContract.Text.Class

/-!
# Tokens of source code

A text of the generated language is cut into tokens: words, single punctuation marks, literals and
the brackets of groups. Blanks and comments between tokens are passed over; documentation comments
are no blanks, and no text that holds one is cut.
-/

namespace ApiContract.Code

/-- A token. A raw word is written with `r#` in front; a mark is joined when another one follows
without a blank. -/
inductive Token where
  | word (isRaw : Bool) (name : String)
  | mark (c : Char) (isJoined : Bool)
  | literal
  | opening (c : Char)
  | closing (c : Char)
  deriving DecidableEq, Repr

/-! ### Between tokens -/

/-- A blank between tokens; the marks of text direction count as blanks. -/
def isGap (c : Char) : Bool := Text.isBlank c || c == '\u200e' || c == '\u200f'

/-- What follows a block comment that is `depth` levels deep; comments nest. -/
def afterBlock (depth : Nat) : List Char → Option (List Char)
  | [] => none
  | '/' :: '*' :: cs => afterBlock (depth + 1) cs
  | '*' :: '/' :: cs => if depth ≤ 1 then some cs else afterBlock (depth - 1) cs
  | _ :: cs => afterBlock depth cs

/-- Whether a text starts with a comment that is not documentation, up to the end of its line. -/
def startsLineComment (cs : List Char) : Bool :=
  "//".toList.isPrefixOf cs &&
    (!"///".toList.isPrefixOf cs || "////".toList.isPrefixOf cs) && !"//!".toList.isPrefixOf cs

/-- Whether a text starts with a block comment that is not documentation. -/
def startsBlockComment (cs : List Char) : Bool :=
  "/**/".toList.isPrefixOf cs ||
    ("/*".toList.isPrefixOf cs &&
      (!"/**".toList.isPrefixOf cs || "/***".toList.isPrefixOf cs) && !"/*!".toList.isPrefixOf cs)

/-- A text without the blanks and comments at its start, given a bound on their number. -/
def skipGaps : Nat → List Char → List Char
  | 0, cs => cs
  | _ + 1, [] => []
  | n + 1, c :: cs =>
    if startsLineComment (c :: cs) then skipGaps n (cs.dropWhile (· ≠ '\n'))
    else if startsBlockComment (c :: cs) then
      match afterBlock 0 (c :: cs) with
      | some rest => skipGaps n rest
      | none => c :: cs
    else if isGap c then skipGaps n cs
    else c :: cs

/-! ### Words -/

/-- The longest word at the start of a text. -/
def takeWord? : List Char → Option (String × List Char)
  | [] => none
  | c :: cs =>
    if Text.isIdentStart c then
      some (String.ofList (c :: cs.takeWhile Text.isIdentContinue),
        cs.dropWhile Text.isIdentContinue)
    else none

/-- The words that cannot be raw. -/
def neverRaw : List String := ["_", "super", "self", "Self", "crate"]

/-- The starts of literals, which are no words. -/
def literalStarts : List String :=
  ["r\"", "r#\"", "r##", "b\"", "b'", "br\"", "br#", "c\"", "cr\"", "cr#"]

/-- The word at the start of a text. -/
def takeIdent? (cs : List Char) : Option (Token × List Char) :=
  if literalStarts.any fun s => s.toList.isPrefixOf cs then none
  else if "r#".toList.isPrefixOf cs then
    match takeWord? (cs.drop 2) with
    | some (name, rest) => if neverRaw.contains name then none else some (.word true name, rest)
    | none => none
  else (takeWord? cs).map fun p => (.word false p.1, p.2)

/-! ### Marks and literals -/

/-- The punctuation marks. -/
def marks : List Char := "~!@#$%^&*-=+|;:,<.>/?'".toList

/-- Whether a text starts with a comment of any kind. -/
def startsComment (cs : List Char) : Bool :=
  "//".toList.isPrefixOf cs || "/*".toList.isPrefixOf cs

/-- Whether a text starts with a punctuation mark. -/
def startsMark (cs : List Char) : Bool :=
  !startsComment cs && match cs with
    | c :: _ => marks.contains c
    | [] => false

/-- The mark at the start of a text. A quote is a mark only as the start of a lifetime. -/
def takeMark? (cs : List Char) : Option (Token × List Char) :=
  if !startsMark cs then none
  else
    match cs with
    | '\'' :: rest =>
      match takeIdent? rest with
      | some (_, after) =>
        if after.head? == some '\'' || after.head? == some '#' then none
        else some (.mark '\'' true, rest)
      | none => none
    | c :: rest => some (.mark c (startsMark rest), rest)
    | [] => none

/-- What follows the closing quote of a string. -/
def afterString : List Char → Option (List Char)
  | [] => none
  | '"' :: cs => some cs
  | '\\' :: _ :: cs => afterString cs
  | _ :: cs => afterString cs

/-- The literal at the start of a text: a string, a character, or a number with its suffix. -/
def takeLiteral? : List Char → Option (Token × List Char)
  | '"' :: cs => (afterString cs).map fun rest => (.literal, rest)
  | '\'' :: '\\' :: _ :: '\'' :: rest => some (.literal, rest)
  | '\'' :: c :: '\'' :: rest => if c == '\'' || c == '\\' then none else some (.literal, rest)
  | c :: cs => if c.isDigit then some (.literal, cs.dropWhile Text.isIdentContinue) else none
  | [] => none

/-! ### Texts -/

/-- The token at the start of a text that is not empty. -/
def takeToken? (cs : List Char) : Option (Token × List Char) :=
  match cs with
  | [] => none
  | c :: rest =>
    if "([\x7b".toList.contains c then some (.opening c, rest)
    else if ")]\x7d".toList.contains c then some (.closing c, rest)
    else takeLiteral? cs <|> takeMark? cs <|> takeIdent? cs

/-- The tokens of a text, given a bound on their number. -/
def tokensUpTo : Nat → List Char → Option (List Token)
  | 0, _ => none
  | n + 1, cs =>
    match skipGaps (cs.length + 1) cs with
    | [] => some []
    | c :: rest =>
      match takeToken? (c :: rest) with
      | some (t, rest) => (tokensUpTo n rest).map (t :: ·)
      | none => none

/-- A text without the mark of byte order at its start. -/
def dropOrderMark : List Char → List Char
  | '\ufeff' :: cs => cs
  | cs => cs

/-- The tokens of a text. -/
def tokens? (s : String) : Option (List Token) :=
  let cs := dropOrderMark s.toList
  tokensUpTo (cs.length + 1) cs

end ApiContract.Code
