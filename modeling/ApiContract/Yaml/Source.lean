import ApiContract.Yaml.Node
import ApiContract.Yaml.Plain

/-!
# YAML text as a source of records

A scalar is a text for whoever asks for a text. Where any value will do, a plain scalar is what its
form says, and a tag of the format decides for others; a tag of one's own names a choice.
-/

namespace ApiContract.Yaml

open Decode

/-- A node in its document, and how many collections are around it on the way that a reader took. -/
structure Spot where
  document : Document
  level : Nat
  node : Node

namespace Spot

/-- The place of the node that a node stands for. -/
def target (s : Spot) : Except Fault Node :=
  match s.document.target? s.node with
  | some node => .ok node
  | none => .error .unknownAnchor

/-- A node inside. -/
def inner (s : Spot) (node : Node) : Spot := ⟨s.document, s.level + 1, node⟩

/-- A collection that a reader may enter. -/
def enter {α : Type} (s : Spot) (x : α) : Except Fault α :=
  if Document.maxLevel ≤ s.level then .error .tooDeep else .ok x

/-! ### Scalars -/

/-- The tags of the format itself. -/
def standardTag (name : String) : String := "tag:yaml.org,2002:" ++ name

/-- The name that a tag of one's own gives. -/
def ownTag? (p : Properties) : Option String :=
  p.tag.bind fun tag =>
    match tag.toList with
    | '!' :: name => some (String.ofList name)
    | _ => none

/-- Whether a scalar is written plainly, or as a block with the tag of the type that is asked for.
-/
def isPlainly (type : String) (p : Properties) (writing : Writing) : Bool :=
  writing == .plain || (writing == .literal && p.tag == some (standardTag type))

/-- Whether a plain text stands for an absent value. -/
def isNullText (text : String) : Bool := Plain.nulls.contains text

/-- What a node is, for a message. -/
def found : Node → Found
  | .scalar _ text _ => .string text
  | .sequence _ _ => .list
  | .mapping _ _ => .table
  | .reference _ => .null

/-- The fault of a node of the wrong type. -/
def wrongType {α : Type} (expected : String) (node : Node) : Except Fault α :=
  .error (.data (.invalidType (found node) expected))

/-- The value of a number: it has to fit 64 bits, and one that is not finite is null. -/
def numberValue (text : String) : Plain → Except Fault Json
  | .integer n =>
    if Number.fits n then .ok (.number (.integer n))
    else .error (.data (.invalidType (.string text) "any valid JSON value"))
  | .real x => .ok (.number (.real x))
  | .infinite _ | .notANumber => .ok .null
  | .null => .ok .null
  | .bool b => .ok (.bool b)
  | .text => .ok (.string text)

/-- The value of a text for which a tag gives the type. -/
def typedValue (type text : String) : Except Fault Json :=
  let wrong := Except.error (.data (.invalidType (.string text) type))
  if type = "bool" then
    match Plain.truths.lookup text with
    | some b => .ok (.bool b)
    | none => wrong
  else if type = "int" then
    match Plain.integer? text.toList with
    | some n => numberValue text (.integer n)
    | none => wrong
  else if type = "float" then
    match Plain.float? text with
    | some x => numberValue text x
    | none => wrong
  else if text ≠ "" ∧ isNullText text then .ok .null else wrong

/-- The types that tags of the format give. -/
def types : List String := ["bool", "int", "float", "null"]

/-- The value of a scalar. -/
def scalarValue (p : Properties) (text : String) (writing : Writing) : Except Fault Json :=
  match p.tag with
  | none => if writing = .plain then numberValue text (Plain.ofText text) else .ok (.string text)
  | some tag =>
    match types.find? fun type => tag == standardTag type with
    | some type => typedValue type text
    | none => .ok (.string text)

/-- The value of a node, at most a number of levels deep. A choice is no value. -/
def valueWithin : (levels : Nat) → Document → Node → Except Fault Json
  | levels, d, node => do
    let node ← target ⟨d, 0, node⟩
    let own (p : Properties) : Except Fault Unit :=
      match ownTag? p with
      | some _ => wrongType "any valid JSON value" node
      | none => .ok ()
    match node, levels with
    | .scalar p text writing, _ =>
      own p
      scalarValue p text writing
    | .sequence p items, levels + 1 =>
      own p
      return .array (← items.mapM (valueWithin levels d))
    | .mapping p members, levels + 1 =>
      own p
      let members ← members.mapM fun m => do
        match ← target ⟨d, 0, m.1⟩ with
        | .scalar _ key _ => return (key, (← valueWithin levels d m.2))
        | other => wrongType "a string key" other
      return .object (Table.ofList members)
    | .sequence _ _, 0 | .mapping _ _, 0 => throw .tooDeep
    | .reference _, _ => throw .unknownAnchor

/-! ### Reading a node -/

/-- The text of a scalar. -/
def text (s : Spot) : Except Fault String := do
  match ← s.target with
  | .scalar _ text _ => return text
  | other => wrongType "a string" other

/-- The truth value of a scalar. -/
def flag (s : Spot) : Except Fault Bool := do
  match ← s.target with
  | .scalar p text writing =>
    match isPlainly "bool" p writing, Plain.truths.lookup text with
    | true, some b => return b
    | _, _ => wrongType "a boolean" (.scalar p text writing)
  | other => wrongType "a boolean" other

/-- Whether a node is an absent value: a plain scalar that is empty or says so, and has no tag that
says otherwise. -/
def isNull (s : Spot) : Except Fault Bool := do
  match ← s.target with
  | .scalar p text .plain =>
    match p.tag with
    | none => return isNullText text
    | some tag =>
      if tag == standardTag "null" then
        if text ≠ "" ∧ isNullText text then return true
        else wrongType "null" (.scalar p text .plain)
      else return false
  | _ => return false

/-- A name among fixed ones: a text, or a tag of one's own in front of nothing. -/
def choice (options : List String) (s : Spot) : Except Fault String := do
  let oneOf (name : String) : Except Fault String :=
    if options.contains name then .ok name else .error (.data (.unknownVariant name options))
  match ← s.target with
  | .scalar p text writing =>
    match ownTag? p with
    | none => oneOf text
    | some name =>
      let name ← oneOf name
      if writing = .plain ∧ isNullText text then return name
      else wrongType "unit variant" (.scalar p text writing)
  | other => wrongType "a tag" other

/-- Whether a node is a plain scalar of no characters. -/
def isBlank : Node → Bool
  | .scalar _ text writing => text.isEmpty && writing == .plain
  | _ => false

/-- The items of a sequence. More items than asked for are an error. -/
def itemsOf (s : Spot) (items : List Node) : Items Spot Fault :=
  ⟨items.map s.inner, none,
    fun n =>
      if n < items.length then some (.data (.invalidLength items.length "sequence")) else none,
    .data⟩

/-- The members of a mapping. -/
def entriesOf (s : Spot) (members : List (Node × Node)) : Entries Spot Fault :=
  ⟨members.map fun m => ⟨(s.inner m.1).text, s.inner m.2, .data⟩, none, .data⟩

/-- The items of a sequence, or none for a scalar that is not written. -/
def list (s : Spot) : Except Fault (Items Spot Fault) := do
  match ← s.target with
  | .sequence _ items => s.enter (s.itemsOf items)
  | other => if isBlank other then return s.itemsOf [] else wrongType "a sequence" other

/-- The members of a mapping, or none for a scalar that is not written. -/
def table (s : Spot) : Except Fault (Entries Spot Fault) := do
  match ← s.target with
  | .mapping _ members => s.enter (s.entriesOf members)
  | other => if isBlank other then return s.entriesOf [] else wrongType "a map" other

/-- The layout of a record: a mapping, a sequence, or nothing. -/
def layout (expected : String) (s : Spot) : Except Fault (Layout Spot Fault) := do
  match ← s.target with
  | .sequence _ items => s.enter (.list (s.itemsOf items))
  | .mapping _ members => s.enter (.table (s.entriesOf members))
  | other => if isBlank other then return .table (s.entriesOf []) else wrongType expected other

instance : Source Spot Fault where
  text := text
  flag := flag
  isNull := isNull
  choice := choice
  list := list
  table := table
  record := layout
  value s := valueWithin (Document.maxLevel - s.level) s.document s.node
  pass _ := .ok ()

end Spot

/-- Reads a text with a decoder. -/
def decodeText {α : Type} (read : Spot → Except Fault α) (text : String) : Except Fault α := do
  let document ← Document.ofText text
  read ⟨document, 0, document.root⟩

end ApiContract.Yaml
