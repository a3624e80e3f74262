import ApiContract.Text.Class

/-!
# Names in other casings

A name is a sequence of words. They are separated by characters that are neither letters nor
numbers, by a change from lowercase to uppercase, and before the last capital of several when a
lowercase letter follows. `snake`, `shouty` and `camel` join the same words in three ways.
-/

namespace ApiContract.Text

/-! ### Words -/

/-- The case of the letters of a word so far. -/
inductive Run where
  | none
  | lower
  | upper
  deriving DecidableEq, Repr

/-- The case of a word with one more character; characters without case keep it. -/
def Run.after (run : Run) (c : Char) : Run :=
  if isLower c then .lower else if isUpper c then .upper else run

/-- The words of a piece of letters and numbers, `word` being the characters of the first one so
far, reversed. -/
def caseWordsAux (word : List Char) (run : Run) : List Char → List (List Char)
  | [] => []
  | [c] => [(c :: word).reverse]
  | c :: next :: rest =>
    if run.after c == .lower && isUpper next then
      (c :: word).reverse :: caseWordsAux [] .none (next :: rest)
    else if run == .upper && isUpper c && isLower next then
      word.reverse :: caseWordsAux [c] .none (next :: rest)
    else caseWordsAux (c :: word) (run.after c) (next :: rest)

/-- The words of a piece of letters and numbers. -/
def caseWords (cs : List Char) : List (List Char) := caseWordsAux [] .none cs

/-- The words of a name. -/
def nameWords (s : String) : List (List Char) :=
  (splitBy (fun c => !isWordChar c) s.toList).flatMap caseWords

/-- The words of a piece hold its characters in order. -/
theorem flatten_caseWordsAux (word : List Char) (run : Run) (cs : List Char) (h : cs ≠ []) :
    (caseWordsAux word run cs).flatten = word.reverse ++ cs := by
  fun_induction caseWordsAux word run cs with
  | case1 => exact absurd rfl h
  | case2 => simp
  | case3 word run c next rest _ ih => simp [ih]
  | case4 word run c next rest _ _ ih => simp [ih]
  | case5 word run c next rest _ _ ih => simp [ih]

/-- Splitting a piece at its capitals loses nothing. -/
theorem flatten_caseWords (cs : List Char) : (caseWords cs).flatten = cs := by
  cases cs with
  | nil => rfl
  | cons c cs => simp [caseWords, flatten_caseWordsAux]

/-! ### Letters -/

/-- A word in lowercase. A capital sigma at its end takes the form of word ends. -/
def lowerWord : List Char → List Char
  | [] => []
  | ['Σ'] => ['ς']
  | c :: cs => lower c ++ lowerWord cs

/-- A word in uppercase. -/
def upperWord (cs : List Char) : List Char := cs.flatMap upper

/-- A word with its first letter in uppercase and the others in lowercase. -/
def capitalWord : List Char → List Char
  | [] => []
  | c :: cs => upper c ++ lowerWord cs

/-! ### Casings -/

/-- The words of a name in lowercase, joined by `_`. -/
def snake (s : String) : String :=
  String.intercalate "_" ((nameWords s).map fun w => String.ofList (lowerWord w))

/-- The words of a name in uppercase, joined by `_`. -/
def shouty (s : String) : String :=
  String.intercalate "_" ((nameWords s).map fun w => String.ofList (upperWord w))

/-- The words of a name, each starting with a capital, joined without a mark. -/
def camel (s : String) : String :=
  String.join ((nameWords s).map fun w => String.ofList (capitalWord w))

end ApiContract.Text
