import ApiContract.Json.Scalar

/-!
# JSON text as far as it can be read

A draft is the tree of a JSON text with the places that messages need. Where the text stops being
JSON, the draft ends in a `broken` node that knows the fault. A decoder that walks a draft in
written order thus meets problems with the data and faults of the text in the order of the document.

A node can be read or passed over, and the two notice faults differently: `Draft.value` is the JSON
value of a node that is read, `Draft.pass` checks one that nobody wants.
-/

namespace ApiContract.Json

/-- How a list of items or members ends: closed, at the place behind the bracket, or broken, with
the fault for a reader, the fault for one who passes over it, and what stands in the place of a key.
-/
inductive Tail (δ : Type) where
  | closed (stop : Place)
  | broken (reading passing : Fault) (stray : Option δ)

/-- A member of an object: its key, the places behind the key, behind the key and the blanks that
follow it, and behind the value and the blanks that follow it. -/
structure Member (δ : Type) where
  key : Except Fault String
  keyStop : Place
  gap : Place
  value : δ
  next : Place

/-- A node of a JSON text. `start` is the place before the node. -/
inductive Draft where
  | null (start stop : Place)
  | bool (value : Bool) (start stop : Place)
  | number (value : Except Fault Number) (start stop : Place)
  | string (value : Except Fault String) (start stop : Place)
  | array (level : Nat) (items : List Draft) (tail : Tail Draft) (start : Place)
  | object (level : Nat) (members : List (Member Draft)) (tail : Tail Draft) (start : Place)
  | broken (reading passing : Fault) (start : Place)

namespace Draft

/-! ### Reading a draft -/

/-- The blanks of JSON. -/
def isSpace (c : Char) : Bool := c == ' ' || c == '\n' || c == '\t' || c == '\r'

/-- The first place that is not a blank. -/
def skipSpace (p : Place) : List Char → Rest
  | [] => (p, [])
  | c :: cs => if isSpace c then skipSpace (p.after c) cs else (p, c :: cs)

/-- A node that is broken in the same way for everyone. -/
def fail (cause : Cause) (at_ start : Place) : Draft :=
  .broken ⟨cause, at_⟩ ⟨cause, at_⟩ start

/-- The rest of a fixed word behind its first letter. -/
def readWord (p : Place) : List Char → List Char → Except Fault Rest
  | [], cs => .ok (p, cs)
  | _ :: _, [] => .error ⟨.endInValue, p⟩
  | w :: ws, c :: cs =>
    if c = w then readWord (p.after c) ws cs else .error ⟨.expectedWord, p.next [c]⟩

/-- A node of a fixed word. -/
def ofWord (start : Place) (node : Place → Draft) (word cs : List Char) : Draft × Option Rest :=
  match readWord (start.right 1) word cs with
  | .ok (stop, rest) => (node stop, some (stop, rest))
  | .error f => (.broken f f start, none)

/-- A node of a number, from behind its sign at `p`. -/
def ofNumber (start : Place) (negative : Bool) (p : Place) (cs : List Char) :
    Draft × Option Rest :=
  match passNumber p cs with
  | .ok (stop, rest) => (.number (readNumber negative p cs) start stop, some (stop, rest))
  | .error passing =>
    match readNumber negative p cs with
    | .error reading => (.broken reading passing start, none)
    | .ok _ => (.broken passing passing start, none)

/-- A string from behind its opening quote: its value, and what follows or the fault. -/
def ofString (p : Place) (cs : List Char) : Except Fault String × Except Fault Rest :=
  (readString [] cs p, passString cs p)

/-- A tail that is broken in the same way for everyone. -/
def failTail (cause : Cause) (at_ : Place) : Tail Draft :=
  .broken ⟨cause, at_⟩ ⟨cause, at_⟩ none

/-- A tail that a reader and one who passes over it find broken in different ways. -/
def splitTail (reading passing : Cause) (at_ : Place) : Tail Draft :=
  .broken ⟨reading, at_⟩ ⟨passing, at_⟩ none

mutual

/-- The node at the beginning of a text, and what follows it. A node nests `level` deep; each step
into the text takes one from `fuel`. -/
def read (fuel level : Nat) (p : Place) (cs : List Char) : Draft × Option Rest :=
  match fuel with
  | 0 => (fail .endInValue p p, none)
  | fuel + 1 =>
    let (p, cs) := skipSpace p cs
    match cs with
    | [] => (fail .endInValue p p, none)
    | 'n' :: cs => ofWord p (.null p) ['u', 'l', 'l'] cs
    | 't' :: cs => ofWord p (.bool true p) ['r', 'u', 'e'] cs
    | 'f' :: cs => ofWord p (.bool false p) ['a', 'l', 's', 'e'] cs
    | '-' :: cs => ofNumber p true (p.right 1) cs
    | '"' :: cs =>
      match ofString (p.right 1) cs with
      | (value, .ok (stop, rest)) => (.string value p stop, some (stop, rest))
      | (.error reading, .error passing) => (.broken reading passing p, none)
      | (.ok _, .error passing) => (.broken passing passing p, none)
    | '[' :: cs =>
      let (items, tail, rest) := readItems fuel (level + 1) true (p.right 1) cs
      (.array (level + 1) items tail p, rest)
    | '\x7b' :: cs =>
      let (members, tail, rest) := readMembers fuel (level + 1) true (p.right 1) cs
      (.object (level + 1) members tail p, rest)
    | c :: cs =>
      if c.isDigit then ofNumber p false p (c :: cs)
      else (fail .expectedValue (p.next (c :: cs)) p, none)

/-- The items of a list, from behind its bracket or its last item. -/
def readItems (fuel level : Nat) (first : Bool) (p : Place) (cs : List Char) :
    List Draft × Tail Draft × Option Rest :=
  match fuel with
  | 0 => ([], failTail .endInList p, none)
  | fuel + 1 =>
    let (p, cs) := skipSpace p cs
    match cs with
    | [] => ([], failTail .endInList p, none)
    | ']' :: cs => ([], .closed (p.right 1), some (p.right 1, cs))
    | ',' :: rest =>
      if first then ([fail .expectedValue (p.right 1) p], failTail .expectedValue (p.right 1), none)
      else
        match skipSpace (p.right 1) rest with
        | (q, []) => ([], failTail .endInValue q, none)
        | (q, ']' :: _) => ([], splitTail .trailingComma .expectedValue (q.right 1), none)
        | (q, cs) => readItem fuel level q cs
    | cs =>
      if first then readItem fuel level p cs
      else ([], failTail .expectedCommaOrBracket (p.next cs), none)

/-- One item and those behind it. -/
def readItem (fuel level : Nat) (p : Place) (cs : List Char) :
    List Draft × Tail Draft × Option Rest :=
  match fuel with
  | 0 => ([], failTail .endInList p, none)
  | fuel + 1 =>
    match read fuel level p cs with
    | (item, none) => ([item], failTail .endInList p, none)
    | (item, some (q, rest)) =>
      let (items, tail, rest) := readItems fuel level false q rest
      (item :: items, tail, rest)

/-- The members of a table, from behind its brace or its last member. -/
def readMembers (fuel level : Nat) (first : Bool) (p : Place) (cs : List Char) :
    List (Member Draft) × Tail Draft × Option Rest :=
  match fuel with
  | 0 => ([], failTail .endInObject p, none)
  | fuel + 1 =>
    let (p, cs) := skipSpace p cs
    match cs with
    | [] => ([], failTail .endInObject p, none)
    | '\x7d' :: cs => ([], .closed (p.right 1), some (p.right 1, cs))
    | ',' :: rest =>
      if first then ([], .broken ⟨.keyNotString, p.right 1⟩ ⟨.keyNotString, p.right 1⟩
        (some (fail .expectedValue (p.right 1) p)), none)
      else
        match skipSpace (p.right 1) rest with
        | (q, []) => ([], splitTail .endInValue .endInObject q, none)
        | (q, '\x7d' :: _) => ([], splitTail .trailingComma .keyNotString (q.right 1), none)
        | (q, '"' :: rest) => readMember fuel level (q.right 1) rest
        | (q, cs) => ([], failTail .keyNotString (q.next cs), none)
    | '"' :: rest =>
      if first then readMember fuel level (p.right 1) rest
      else ([], failTail .expectedCommaOrBrace (p.right 1), none)
    | cs =>
      if first then
        let fault : Fault := ⟨.keyNotString, p.next cs⟩
        ([], .broken fault fault (some (read fuel level p cs).1), none)
      else ([], failTail .expectedCommaOrBrace (p.next cs), none)

/-- One member, from behind the quote of its key, and those behind it. -/
def readMember (fuel level : Nat) (p : Place) (cs : List Char) :
    List (Member Draft) × Tail Draft × Option Rest :=
  match fuel with
  | 0 => ([], failTail .endInObject p, none)
  | fuel + 1 =>
    match ofString p cs with
    | (.error reading, .error passing) => ([], .broken reading passing none, none)
    | (.ok _, .error passing) => ([], .broken passing passing none, none)
    | (key, .ok (keyStop, rest)) =>
      match skipSpace keyStop rest with
      | (gap, ':' :: rest) =>
        match read fuel level (gap.right 1) rest with
        | (value, none) => ([⟨key, keyStop, gap, value, gap⟩], failTail .endInObject gap, none)
        | (value, some (stop, rest)) =>
          let (next, rest) := skipSpace stop rest
          let (members, tail, rest) := readMembers fuel level false next rest
          (⟨key, keyStop, gap, value, next⟩ :: members, tail, rest)
      | (gap, []) =>
        ([⟨key, keyStop, gap, fail .endInObject gap gap, gap⟩], failTail .endInObject gap, none)
      | (gap, cs) =>
        ([⟨key, keyStop, gap, fail .expectedColon (gap.next cs) gap, gap⟩],
          failTail .endInObject gap, none)

end

/-- The place before a node. -/
def start : Draft → Place
  | null p _ | bool _ p _ | number _ p _ | string _ p _ | array _ _ _ p | object _ _ _ p
  | broken _ _ p => p

/-! ### Reading and passing over a node -/

/-- The deepest level of nesting that is read. -/
def maxLevel : Nat := 127

/-- The fault of nesting too deep, at a bracket. -/
def deepFault (start : Place) : Fault := ⟨.tooDeep, start.right 1⟩

mutual

/-- The value of a node that is read. -/
def value : Draft → Except Fault Json
  | null _ _ => .ok .null
  | bool b _ _ => .ok (.bool b)
  | number n _ _ => n.map .number
  | string s _ _ => s.map .string
  | array level items tail p =>
    if maxLevel < level then .error (deepFault p)
    else
      match values items with
      | .error e => .error e
      | .ok vs =>
        match tail with
        | .closed _ => .ok (.array vs)
        | .broken reading _ _ => .error reading
  | object level members tail p =>
    if maxLevel < level then .error (deepFault p)
    else
      match memberValues members with
      | .error e => .error e
      | .ok vs =>
        match tail with
        | .closed _ => .ok (.object (Table.ofList vs))
        | .broken reading _ _ => .error reading
  | broken reading _ _ => .error reading

/-- The values of items. -/
def values : List Draft → Except Fault (List Json)
  | [] => .ok []
  | d :: ds =>
    match value d with
    | .error e => .error e
    | .ok v => (values ds).map (v :: ·)

/-- The values of members. -/
def memberValues : List (Member Draft) → Except Fault (List (String × Json))
  | [] => .ok []
  | ⟨key, _, _, d, _⟩ :: ds =>
    match key with
    | .error e => .error e
    | .ok k =>
      match value d with
      | .error e => .error e
      | .ok v => (memberValues ds).map ((k, v) :: ·)

end

mutual

/-- The fault that one who passes over a node meets. -/
def pass : Draft → Except Fault Unit
  | array _ items tail _ =>
    match passItems items with
    | .error e => .error e
    | .ok () =>
      match tail with
      | .closed _ => .ok ()
      | .broken _ passing _ => .error passing
  | object _ members tail _ =>
    match passMembers members with
    | .error e => .error e
    | .ok () =>
      match tail with
      | .closed _ => .ok ()
      | .broken _ passing _ => .error passing
  | broken _ passing _ => .error passing
  | _ => .ok ()

/-- The first fault in items that are passed over. -/
def passItems : List Draft → Except Fault Unit
  | [] => .ok ()
  | d :: ds =>
    match pass d with
    | .error e => .error e
    | .ok () => passItems ds

/-- The first fault in members that are passed over. -/
def passMembers : List (Member Draft) → Except Fault Unit
  | [] => .ok ()
  | ⟨_, _, _, d, _⟩ :: ds =>
    match pass d with
    | .error e => .error e
    | .ok () => passMembers ds

end

end Draft

/-- A whole text: its node, and the fault of anything but blanks behind it. -/
def draft (s : String) : Draft × Option Fault :=
  match Draft.read (3 * s.length + 4) 0 .start s.toList with
  | (node, none) => (node, none)
  | (node, some (p, rest)) =>
    match Draft.skipSpace p rest with
    | (_, []) => (node, none)
    | (q, cs) => (node, some ⟨.trailingCharacters, q.next cs⟩)

/-- Reads a text with a decoder of its node. -/
def decodeText {α : Type} (decode : Draft → Except Fault α) (s : String) : Except Fault α := do
  let (node, trailing) := draft s
  let result ← decode node
  match trailing with
  | some f => throw f
  | none => return result

/-- The JSON value of a text. -/
def parse (s : String) : Except Fault Json := decodeText Draft.value s

end ApiContract.Json
