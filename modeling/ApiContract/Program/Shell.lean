import ApiContract.Program
import ApiContract.Text.Class

/-!
# A small shell

Scripts of simple commands: words with quotes and positional parameters, the separators `;`, `&&`,
`||` and the line break, redirection of one output to the other, and the commands `cat`, `echo`,
`printf`, `exit`, `kill`, `true`, `false` and `:`.
-/

namespace ApiContract.Program.Shell

/-- A piece of a script. -/
inductive Token where
  | word (s : List Char)
  | separator (s : String)
  | redirect (source target : Nat)
  deriving DecidableEq, Repr

/-- What a script may refer to: its parameters and the status of the last command. -/
structure Context where
  parameters : List String
  processId : Nat

/-- The text of a parameter. -/
def Context.expand (ctx : Context) (name : Char) : List Char :=
  if name = '#' then (toString ctx.parameters.length).toList
  else if name = '@' ∨ name = '*' then (String.intercalate " " ctx.parameters).toList
  else if name = '$' then (toString ctx.processId).toList
  else if name = '?' then ['0']
  else if name = '0' then ['s', 'h']
  else if name.isDigit then ((ctx.parameters[name.toNat - 49]?).getD "").toList
  else []

/-- Whether a character names a parameter. -/
def isParameter (c : Char) : Bool :=
  c.isDigit || c == '#' || c == '@' || c == '*' || c == '$' || c == '?'

/-- Where the reader of a script stands. -/
inductive Mode where
  | plain
  | single
  | double
  deriving DecidableEq

/-- The token of a finished word. -/
def flush (word : Option (List Char)) : List Token :=
  match word with
  | some w => [.word w.reverse]
  | none => []

/-- Adds a character to a word. -/
def push (word : Option (List Char)) (c : Char) : Option (List Char) := some (c :: word.getD [])

/-- Adds characters to a word. -/
def pushAll (word : Option (List Char)) (cs : List Char) : Option (List Char) :=
  some (cs.reverse ++ word.getD [])

/-- The tokens of a script; `word` is the word being read, last character first. `none` for an
unfinished quote. -/
def tokenize (ctx : Context) : Mode → Option (List Char) → List Char → Option (List Token)
  | .plain, word, [] => some (flush word)
  | _, _, [] => none
  | .single, word, '\'' :: cs => tokenize ctx .plain (pushAll word []) cs
  | .single, word, c :: cs => tokenize ctx .single (push word c) cs
  | .double, word, '"' :: cs => tokenize ctx .plain (pushAll word []) cs
  | .double, word, '\\' :: c :: cs =>
    if c = '"' ∨ c = '\\' ∨ c = '$' ∨ c.toNat = 0x60 then tokenize ctx .double (push word c) cs
    else if c = '\n' then tokenize ctx .double word cs
    else tokenize ctx .double (push (push word '\\') c) cs
  | .double, word, '$' :: c :: cs =>
    if isParameter c then tokenize ctx .double (pushAll word (ctx.expand c)) cs
    else if c = '"' then tokenize ctx .plain (push word '$') cs
    else tokenize ctx .double (push (push word '$') c) cs
  | .double, word, c :: cs => tokenize ctx .double (push word c) cs
  | .plain, word, '\'' :: cs => tokenize ctx .single (pushAll word []) cs
  | .plain, word, '"' :: cs => tokenize ctx .double (pushAll word []) cs
  | .plain, word, '\\' :: c :: cs => tokenize ctx .plain (push word c) cs
  | .plain, word, '$' :: c :: cs =>
    if isParameter c then tokenize ctx .plain (pushAll word (ctx.expand c)) cs
    else tokenize ctx .plain (push (push word '$') c) cs
  | .plain, word, '2' :: '>' :: '&' :: '1' :: cs =>
    (tokenize ctx .plain none cs).map (flush word ++ .redirect 2 1 :: ·)
  | .plain, word, '1' :: '>' :: '&' :: '2' :: cs =>
    (tokenize ctx .plain none cs).map (flush word ++ .redirect 1 2 :: ·)
  | .plain, word, '>' :: '&' :: '2' :: cs =>
    (tokenize ctx .plain none cs).map (flush word ++ .redirect 1 2 :: ·)
  | .plain, word, '&' :: '&' :: cs =>
    (tokenize ctx .plain none cs).map (flush word ++ .separator "&&" :: ·)
  | .plain, word, '|' :: '|' :: cs =>
    (tokenize ctx .plain none cs).map (flush word ++ .separator "||" :: ·)
  | .plain, word, c :: cs =>
    if c = ';' ∨ c = '\n' then
      (tokenize ctx .plain none cs).map (flush word ++ .separator ";" :: ·)
    else if c = ' ' ∨ c = '\t' then
      (tokenize ctx .plain none cs).map (flush word ++ ·)
    else tokenize ctx .plain (push word c) cs

/-- What a script has done so far: what it left of its input, its two outputs as bytes and the
status of its last command. -/
structure State where
  input : List UInt8
  output : List UInt8
  errors : List UInt8
  status : Nat

/-- The bytes of characters. -/
def bytesOf (cs : List Char) : List UInt8 := (String.ofList cs).toByteArray.data.toList

/-- The value of up to `n` octal digits, and the rest. -/
def octal (n value : Nat) : List Char → Nat × List Char
  | [] => (value, [])
  | c :: cs =>
    match n with
    | 0 => (value, c :: cs)
    | n + 1 =>
      if '0' ≤ c ∧ c ≤ '7' then octal n (value * 8 + (c.toNat - 48)) cs else (value, c :: cs)

/-- The byte of a letter escape. -/
def letterEscape? : Char → Option Nat
  | 'a' => some 7
  | 'b' => some 8
  | 'f' => some 12
  | 'n' => some 10
  | 'r' => some 13
  | 't' => some 9
  | 'v' => some 11
  | '\\' => some 92
  | _ => none

/-- The bytes of a text with backslash escapes; `digits` is how many octal digits one may have, and
`zero` whether they have to follow a zero. -/
def unescape (zero : Bool) : (fuel : Nat) → List Char → List UInt8
  | 0, _ => []
  | _, [] => []
  | fuel + 1, '\\' :: c :: cs =>
    match letterEscape? c with
    | some b => UInt8.ofNat b :: unescape zero fuel cs
    | none =>
      if zero then
        if c = '0' then
          let (v, rest) := octal 3 0 cs
          UInt8.ofNat v :: unescape zero fuel rest
        else bytesOf ['\\', c] ++ unescape zero fuel cs
      else if c = '"' then bytesOf ['"'] ++ unescape zero fuel cs
      else if '0' ≤ c ∧ c ≤ '7' then
        let (v, rest) := octal 3 0 (c :: cs)
        UInt8.ofNat v :: unescape zero fuel rest
      else bytesOf ['\\', c] ++ unescape zero fuel cs
  | fuel + 1, c :: cs => bytesOf [c] ++ unescape zero fuel cs

/-- A format as literal texts with the arguments in between. -/
def format : List Char → List Char → List (List Char) → List Char
  | done, [], _ => done.reverse
  | done, '%' :: '%' :: cs, args => format ('%' :: done) cs args
  | done, '%' :: c :: cs, args =>
    if c = 's' ∨ c = 'd' then
      format (((args.head?).getD (if c = 'd' then ['0'] else [])).reverse ++ done) cs (args.drop 1)
    else format (c :: '%' :: done) cs args
  | done, c :: cs, args => format (c :: done) cs args

/-- Words with a blank in between. -/
def joinWords (words : List (List Char)) : List Char :=
  (words.intersperse [' ']).flatten

/-- What one simple command comes to: what it writes and its status, or the end of the script. -/
inductive Effect where
  | written (output errors : List UInt8) (status : Nat)
  | copied
  | ended (status : Option Nat)
  | killed (signal : Nat)

/-- The number of a decimal text. -/
def number? (cs : List Char) : Option Nat := (String.ofList cs).toNat?

/-- The signal of a name or number with a leading dash. -/
def signalOf? (cs : List Char) : Option Nat :=
  match cs with
  | '-' :: cs =>
    match number? cs with
    | some n => some n
    | none =>
      let name := String.ofList cs
      (signals.find? fun s => s.2 == name || "SIG" ++ s.2 == name).map Prod.fst
  | _ => none

/-- Runs one simple command. -/
def simple (ctx : Context) (words : List (List Char)) : Effect :=
  match words with
  | [] => .written [] [] 0
  | name :: args =>
    let name := String.ofList name
    if name = "echo" then
      let (args, last) := match args with
        | ['-', 'n'] :: rest => (rest, [])
        | rest => (rest, [(10 : UInt8)])
      let text := joinWords args
      .written (unescape true (text.length + 1) text ++ last) [] 0
    else if name = "printf" then
      match args with
      | [] => .written [] (bytesOf "sh: 1: printf: usage: printf format [arg ...]\n".toList) 2
      | f :: rest =>
        let text := format [] f rest
        .written (unescape false (text.length + 1) text) [] 0
    else if name = "exit" then .ended (args.head?.bind number?)
    else if name = "cat" ∧ args.isEmpty then .copied
    else if name = "true" ∨ name = ":" then .written [] [] 0
    else if name = "false" then .written [] [] 1
    else if name = "kill" then
      match args with
      | [signal, target] =>
        if target = (toString ctx.processId).toList then
          match signalOf? signal with
          | some n => .killed n
          | none => .written [] [] 1
        else .written [] [] 1
      | _ => .written [] [] 1
    else .written [] (bytesOf ("sh: 1: " ++ name ++ ": not found\n").toList) 127

/-- The words of a command and where its outputs go. -/
def splitRedirects : List Token → List (List Char) × List (Nat × Nat)
  | [] => ([], [])
  | .word w :: rest => let (ws, rs) := splitRedirects rest; (w :: ws, rs)
  | .redirect a b :: rest => let (ws, rs) := splitRedirects rest; (ws, (a, b) :: rs)
  | _ :: rest => splitRedirects rest

/-- Adds what a command wrote to a state, each output going where it was sent. -/
def State.add (s : State) (redirects : List (Nat × Nat)) (output errors : List UInt8)
    (status : Nat) : State :=
  let outTo := (redirects.lookup 1).getD 1
  let errTo := (redirects.lookup 2).getD 2
  let toOut := (if outTo = 1 then output else []) ++ (if errTo = 1 then errors else [])
  let toErr := (if outTo = 2 then output else []) ++ (if errTo = 2 then errors else [])
  ⟨s.input, s.output ++ toOut, s.errors ++ toErr, status⟩

/-- Commands with the separators before them. -/
def splitCommands (before : String) (current : List Token) : List Token →
    List (String × List Token)
  | [] => [(before, current.reverse)]
  | .separator s :: rest => (before, current.reverse) :: splitCommands s [] rest
  | t :: rest => splitCommands before (t :: current) rest

/-- Runs commands one after another. -/
def runCommands (ctx : Context) (s : State) : List (String × List Token) → Status × State
  | [] => (.exited s.status, s)
  | (before, tokens) :: rest =>
    let (words, redirects) := splitRedirects tokens
    if words.isEmpty ∨ (before = "&&" ∧ s.status ≠ 0) ∨ (before = "||" ∧ s.status = 0) then
      runCommands ctx s rest
    else
      match simple ctx words with
      | .written output errors status => runCommands ctx (s.add redirects output errors status) rest
      | .copied => runCommands ctx { s.add redirects s.input [] 0 with input := [] } rest
      | .ended status => (.exited ((status.getD s.status) % 256), s)
      | .killed n => (.signalled n, s)

/-- Runs a script with parameters on an input. -/
def run (parameters : List String) (script input : String) : Outcome :=
  let ctx : Context := ⟨parameters, 4242⟩
  match tokenize ctx .plain none script.toList with
  | none =>
    .finished (.exited 2) .empty "sh: 1: Syntax error: Unterminated quoted string\n".toByteArray
  | some tokens =>
    let start : State := ⟨bytesOf input.toList, [], [], 0⟩
    let (status, s) := runCommands ctx start (splitCommands ";" [] tokens)
    .finished status ⟨s.output.toArray⟩ ⟨s.errors.toArray⟩

end ApiContract.Program.Shell
