import ApiContract.Json.Draft

/-!
# JSON text and JSON values as sources of records

The nodes of a text report problems at the places where a reader who goes through the text from left
to right notices them. The values of a program have no places: they report the problem alone.
-/

namespace ApiContract.Json

open Decode

/-! ### Text -/

namespace Draft

/-- The fault of a problem at a place. -/
def problemAt (place : Place) (p : Problem) : Fault := ⟨.data p, place⟩

/-- The fault of a node of the wrong type. A scalar is read before it is refused, a bracket is not.
-/
def wrongType (expected : String) : Draft → Fault
  | null _ stop => problemAt stop (.invalidType .null expected)
  | bool b _ stop => problemAt stop (.invalidType (.bool b) expected)
  | number (.ok n) _ stop => problemAt stop (.invalidType (.number n) expected)
  | number (.error f) _ _ => f
  | string (.ok s) _ stop => problemAt stop (.invalidType (.string s) expected)
  | string (.error f) _ _ => f
  | array _ _ _ start => problemAt start (.invalidType .list expected)
  | object _ _ _ start => problemAt start (.invalidType .table expected)
  | broken reading _ _ => reading

/-- The error, if any, of a list that is closed behind its first `n` items. -/
def surplus (items : List Draft) (tail : Tail Draft) (n : Nat) : Option Fault :=
  match items[n]?, tail with
  | some item, _ => some ⟨.trailingCharacters, item.start.right 1⟩
  | none, .closed _ => none
  | none, .broken ⟨.expectedCommaOrBracket, p⟩ _ _ => some ⟨.trailingCharacters, p⟩
  | none, .broken ⟨.endInValue, p⟩ _ _ => some ⟨.trailingCharacters, p⟩
  | none, .broken reading _ _ => some reading

/-- The fault for a reader that a tail holds. -/
def tailFault : Tail Draft → Option Fault
  | .closed _ => none
  | .broken reading _ _ => some reading

/-- The fault of a problem with a whole list or table, noticed behind its bracket. -/
def tailBlame (tail : Tail Draft) (p : Problem) : Fault :=
  match tail with
  | .closed stop => problemAt stop p
  | .broken reading _ _ => reading

/-- The items of a list. -/
def itemsOf (items : List Draft) (tail : Tail Draft) : Items Draft Fault :=
  ⟨items, tailFault tail, surplus items tail, tailBlame tail⟩

/-- The members of a table; a repeated key is noticed behind the blanks that follow it. -/
def entriesOf (members : List (Member Draft)) (tail : Tail Draft) : Entries Draft Fault :=
  ⟨members.map fun m => ⟨m.key, m.value, problemAt m.gap⟩, tailFault tail, tailBlame tail⟩

/-- A node that may be nested as deep as it is. -/
def checkLevel {α : Type} (level : Nat) (start : Place) (x : α) : Except Fault α :=
  if maxLevel < level then .error (deepFault start) else .ok x

/-- Whether a fault is one of a string that has begun. -/
def inString : Cause → Bool
  | .endInString | .invalidEscape | .controlCharacter | .loneSurrogate | .endOfEscape => true
  | _ => false

/-- One of fixed names. -/
def oneOf (options : List String) (name : String) (stop : Place) : Except Fault String :=
  if options.contains name then .ok name
  else .error (problemAt stop (.unknownVariant name options))

/-- A name among fixed ones: a string, or a table that gives the name the value null. -/
def choiceOf (options : List String) : Draft → Except Fault String
  | string s _ stop => s.bind fun name => oneOf options name stop
  | object level members tail start => do
    checkLevel level start ()
    match members, tail with
    | [], .closed stop => throw ⟨.expectedValue, stop⟩
    | [], .broken _ _ (some stray) => throw (wrongType "variant identifier" stray)
    | [], .broken ⟨.endInObject, p⟩ _ _ => throw ⟨.endInValue, p⟩
    | [], .broken reading _ _ => throw reading
    | m :: rest, tail =>
      let name ← oneOf options (← m.key) m.keyStop
      match m.value with
      | null _ _ => pure ()
      | other => throw (wrongType "unit" other)
      match rest, tail with
      | [], .closed _ => return name
      | [], .broken ⟨.endInObject, p⟩ _ _ => throw ⟨.endInObject, p⟩
      | _, _ => throw ⟨.expectedValue, m.next⟩
  | broken reading _ start =>
    let told := inString reading.cause || reading.place == start ||
      (match reading.cause with
        | .expectedColon | .endInObject => true
        | _ => false)
    .error (if told then reading else ⟨.expectedValue, start.right 1⟩)
  | other => .error ⟨.expectedValue, other.start.right 1⟩

instance : Source Draft Fault where
  text
    | string s _ _ => s
    | other => .error (wrongType "a string" other)
  flag
    | bool b _ _ => .ok b
    | other => .error (wrongType "a boolean" other)
  isNull
    | null _ _ => .ok true
    | _ => .ok false
  choice := choiceOf
  list
    | array level items tail start => checkLevel level start (itemsOf items tail)
    | other => .error (wrongType "a sequence" other)
  table
    | object level members tail start => checkLevel level start (entriesOf members tail)
    | other => .error (wrongType "a map" other)
  record expected
    | array level items tail start => checkLevel level start (.list (itemsOf items tail))
    | object level members tail start => checkLevel level start (.table (entriesOf members tail))
    | other => .error (wrongType expected other)
  value := Draft.value
  pass := Draft.pass

end Draft

/-! ### Values -/

/-- The problem of a value of the wrong type. -/
def wrongType (expected : String) : Json → Problem
  | .null => .invalidType .null expected
  | .bool b => .invalidType (.bool b) expected
  | .number n => .invalidType (.number n) expected
  | .string s => .invalidType (.string s) expected
  | .array _ => .invalidType .list expected
  | .object _ => .invalidType .table expected

/-- The items of an array of a program. -/
def itemsOf (items : List Json) : Items Json Problem :=
  ⟨items, none,
    fun n => if n < items.length then
      some (.invalidLength items.length "fewer elements in array") else none, id⟩

/-- The members of an object of a program. -/
def entriesOf (members : List (String × Json)) : Entries Json Problem :=
  ⟨members.map fun m => ⟨.ok m.1, m.2, id⟩, none, id⟩

instance : Source Json Problem where
  text
    | .string s => .ok s
    | other => .error (wrongType "a string" other)
  flag
    | .bool b => .ok b
    | other => .error (wrongType "a boolean" other)
  isNull
    | .null => .ok true
    | _ => .ok false
  choice options
    | .string s => if options.contains s then .ok s else .error (.unknownVariant s options)
    | .object [(s, v)] =>
      if options.contains s then
        match v with
        | .null => .ok s
        | other => .error (wrongType "unit" other)
      else .error (.unknownVariant s options)
    | other => .error (wrongType "string or map" other)
  list
    | .array items => .ok (itemsOf items)
    | other => .error (wrongType "a sequence" other)
  table
    | .object members => .ok (entriesOf members)
    | other => .error (wrongType "a map" other)
  record expected
    | .array items => .ok (.list (itemsOf items))
    | .object members => .ok (.table (entriesOf members))
    | other => .error (wrongType expected other)
  value := .ok
  pass _ := .ok ()

end ApiContract.Json
