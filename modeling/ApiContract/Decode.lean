import ApiContract.Json.Printer

/-!
# Decoding records from documents

Specifications are read from JSON text, from JSON values and from YAML. `Source` is what the three
have in common: each shows its nodes as texts, flags, lists, tables and records, and turns a problem
into its own kind of error. Everything is shown in written order together with the fault that cuts
it short, so that of several errors the first one in the document is reported.
-/

namespace ApiContract

/-- What was found where something else was expected. -/
inductive Found where
  | null
  | bool (value : Bool)
  | number (value : Number)
  | string (value : String)
  | list
  | table
  deriving Repr

/-- The words of a message for what was found. -/
def Found.message : Found → String
  | .null => "null"
  | .bool b => "boolean `" ++ Json.boolText b ++ "`"
  | .number (.integer n) => "integer `" ++ toString n ++ "`"
  | .number (.real x) => "floating point `" ++ x.text ⟨true⟩ ++ "`"
  | .string s => "string " ++ Text.quoted s
  | .list => "sequence"
  | .table => "map"

/-- Why a well-formed document is not what a decoder expects. -/
inductive Problem where
  | invalidType (found : Found) (expected : String)
  | missingField (name : String)
  | duplicateField (name : String)
  | unknownVariant (name : String) (options : List String)
  | invalidLength (length : Nat) (expected : String)
  deriving Repr

/-- The options of a choice as a message lists them. -/
def optionsText (options : List String) : String :=
  match options.map fun o => "`" ++ o ++ "`" with
  | [] => "there are no variants"
  | [a] => "expected " ++ a
  | [a, b] => "expected " ++ a ++ " or " ++ b
  | all => "expected one of " ++ String.intercalate ", " all

/-- The text of a problem. -/
def Problem.message : Problem → String
  | .invalidType found expected => "invalid type: " ++ found.message ++ ", expected " ++ expected
  | .missingField name => "missing field `" ++ name ++ "`"
  | .duplicateField name => "duplicate field `" ++ name ++ "`"
  | .unknownVariant name options =>
    "unknown variant `" ++ name ++ "`, " ++ optionsText options
  | .invalidLength length expected =>
    "invalid length " ++ toString length ++ ", expected " ++ expected

namespace Decode

/-- A member of a table: its key, its value, and the error of a problem with the key. -/
structure Entry (ν ε : Type) where
  key : Except ε String
  value : ν
  blame : Problem → ε

/-- The members of a table, the error that cuts them short if there is one, and the error of a
problem with the whole. -/
structure Entries (ν ε : Type) where
  members : List (Entry ν ε)
  fault : Option ε
  blame : Problem → ε

/-- The items of a list, the error that cuts them short if there is one, the error of a list that
goes on after some number of items, and the error of a problem with the whole. -/
structure Items (ν ε : Type) where
  items : List ν
  fault : Option ε
  surplus : Nat → Option ε
  blame : Problem → ε

/-- A record is written as a table of its fields or as the list of their values. -/
inductive Layout (ν ε : Type) where
  | table (entries : Entries ν ε)
  | list (items : Items ν ε)

/-- A document format whose nodes are `ν` and whose errors are `ε`. -/
class Source (ν : Type) (ε : outParam Type) where
  /-- The text of a node that has to be a string. -/
  text : ν → Except ε String
  /-- The truth value of a node that has to be one. -/
  flag : ν → Except ε Bool
  /-- Whether a node stands for an absent value. -/
  isNull : ν → Except ε Bool
  /-- The name of a choice among fixed names. -/
  choice : List String → ν → Except ε String
  /-- The items of a node that has to be a list. -/
  list : ν → Except ε (Items ν ε)
  /-- The members of a node that has to be a table. -/
  table : ν → Except ε (Entries ν ε)
  /-- The layout of a node that has to be a record of the given kind. -/
  record : String → ν → Except ε (Layout ν ε)
  /-- The JSON value of a node. -/
  value : ν → Except ε Json
  /-- Passes over a node that nobody reads. -/
  pass : ν → Except ε Unit

variable {ν ε α : Type} [Source ν ε]

/-- The error, if there is one. -/
def raise? : Option ε → Except ε Unit
  | some e => .error e
  | none => .ok ()

/-- A node that may stand for an absent value. -/
def optional (read : ν → Except ε α) (v : ν) : Except ε (Option α) := do
  if (← Source.isNull v) then return none else return some (← read v)

/-- A list of nodes of one kind. -/
def list (read : ν → Except ε α) (v : ν) : Except ε (List α) := do
  let items ← Source.list v
  let values ← items.items.mapM read
  raise? items.fault
  return values

/-- The entries of a table of nodes of one kind, in written order. -/
def entries (read : ν → Except ε α) (v : ν) : Except ε (List (String × α)) := do
  let all ← Source.table v
  let values ← all.members.mapM fun m => do return ((← m.key), (← read m.value))
  raise? all.fault
  return values

/-- A table of nodes of one kind. A repeated key keeps its first place and its last value. -/
def table (read : ν → Except ε α) (v : ν) : Except ε (Table String α) := do
  return Table.ofList (← entries read v)

/-! ### Records -/

/-- A field of a record `α`: its name, whether it has to be there, and how it is read. -/
structure Field (ν ε α : Type) where
  name : String
  required : Bool
  read : ν → α → Except ε α

/-- Reads one member into a record under construction, given the names read before it. -/
def readMember (fields : List (Field ν ε α)) (seen : List String) (record : α)
    (m : Entry ν ε) : Except ε (List String × α) := do
  let key ← m.key
  match fields.find? (·.name == key) with
  | none =>
    Source.pass m.value
    return (seen, record)
  | some field =>
    if seen.contains key then throw (m.blame (.duplicateField key))
    return (key :: seen, (← field.read m.value record))

/-- Reads the members of a table into a record under construction. -/
def readMembers (fields : List (Field ν ε α)) :
    List String × α → List (Entry ν ε) → Except ε (List String × α)
  | state, [] => .ok state
  | (seen, record), m :: rest => do readMembers fields (← readMember fields seen record m) rest

/-- Reads items into the fields in order. `whole` describes the record for the message of a list
that ends before a field that has to be there. -/
def readItems (whole : String) (blame : Problem → ε) (index : Nat) (record : α) :
    List (Field ν ε α) → List ν → Option ε → Except ε α
  | [], _, _ => .ok record
  | field :: fields, v :: rest, fault => do
    readItems whole blame (index + 1) (← field.read v record) fields rest fault
  | field :: fields, [], fault => do
    raise? fault
    if field.required then throw (blame (.invalidLength index whole))
    readItems whole blame (index + 1) record fields [] fault

/-- Reads a record of a kind: from a table by the names of its fields, each at most once, unknown
names passed over; or from the list of its values. `blank` holds the values of absent fields. -/
def record (kind : String) (fields : List (Field ν ε α)) (blank : α) (v : ν) : Except ε α := do
  match ← Source.record ("struct " ++ kind) v with
  | .table all =>
    let (seen, result) ← readMembers fields ([], blank) all.members
    raise? all.fault
    match fields.find? fun f => f.required && !seen.contains f.name with
    | some f => throw (all.blame (.missingField f.name))
    | none => return result
  | .list items =>
    let whole := "struct " ++ kind ++ " with " ++ toString fields.length ++ " elements"
    let result ← readItems whole items.blame 0 blank fields items.items items.fault
    raise? (items.surplus fields.length)
    return result

end Decode

end ApiContract
