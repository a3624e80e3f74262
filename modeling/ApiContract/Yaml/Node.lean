import ApiContract.Yaml.Token

/-!
# Nodes of a YAML text

The tokens of a text form the tree of one document. A node with an anchor has the number of anchor
names that were known before it; a reference keeps the number that its name has at that place, and
stands for the last node of that number in the whole document, which may be a node around it.
-/

namespace ApiContract.Yaml

/-- What stands in front of a node. -/
structure Properties where
  anchor : Option Nat
  tag : Option String
  deriving DecidableEq, Repr

/-- A node of a document. -/
inductive Node where
  | scalar (properties : Properties) (text : String) (writing : Writing)
  | sequence (properties : Properties) (items : List Node)
  | mapping (properties : Properties) (members : List (Node × Node))
  | reference (number : Nat)
  deriving Repr, Inhabited

namespace Node

/-- A node that is not written. -/
def absent : Node := .scalar ⟨none, none⟩ "" .plain

/-! ### Reading tokens -/

/-- A document on the way to its tree: the tokens that are left, the numbers of the anchors, and
what the handles of tags stand for. -/
structure Reading where
  rest : List Token
  anchors : Table String Nat
  handles : Table String String

/-- A reader of tokens. -/
abbrev Reader := StateT Reading (Except Fault)

/-- The next token. -/
def peek? : Reader (Option Token) := return (← get).rest.head?

/-- Takes the next token away. -/
def skip : Reader Unit := modify fun r => { r with rest := r.rest.tail }

/-- Takes a token away if it is the next one. -/
def accept (t : Token) : Reader Bool := do
  if (← peek?) = some t then
    skip
    return true
  return false

/-- Takes away the token that has to come next. -/
def expect (t : Token) : Reader Unit := do
  unless ← accept t do throw .misplacedToken

/-- Whether one of some tokens comes next. -/
def isNext (tokens : List Token) : Reader Bool := return (← peek?).any tokens.contains

/-- A node, unless one of the tokens that may follow it comes next. -/
def unless? (tokens : List Token) (read : Reader Node) : Reader Node := do
  if ← isNext tokens then return absent else read

/-! ### Properties -/

/-- The tag that a written one stands for. -/
def resolve (t : Tag) : Reader String := do
  if t.handle.isEmpty then return t.suffix
  match (← get).handles.find? t.handle with
  | some stem => return stem ++ t.suffix
  | none => throw .unknownHandle

/-- Gives an anchor its number. -/
def register (name : String) : Reader Nat :=
  modifyGet fun r =>
    (r.anchors.length, { r with anchors := r.anchors.insert name r.anchors.length })

/-- The name of an anchor, if one comes next. -/
def anchor? : Reader (Option Nat) := do
  match ← peek? with
  | some (.anchor name) =>
    skip
    return some (← register name)
  | _ => return none

/-- The tag, if one comes next. -/
def tag? : Reader (Option String) := do
  match ← peek? with
  | some (.tag t) =>
    skip
    return some (← resolve t)
  | _ => return none

/-- An anchor and a tag in either order. -/
def properties : Reader Properties := do
  match ← anchor? with
  | some a => return ⟨some a, (← tag?)⟩
  | none =>
    let t ← tag?
    return ⟨(← anchor?), t⟩

/-- The properties of a scalar: the tag that is an exclamation mark alone says nothing. -/
def Properties.ofScalar (p : Properties) : Properties :=
  if p.tag = some "!" then { p with tag := none } else p

/-- A node of which only properties are written. -/
def bare (p : Properties) : Reader Node := do
  if p = ⟨none, none⟩ then throw .missingNode
  return .scalar p "" .plain

/-! ### The grammar -/

mutual

/-- A node. Blocks cannot stand in brackets; the items of a member of a block may begin in the
column of its key. -/
def read : Nat → (inBlock isMember : Bool) → Reader Node
  | 0, _, _ => throw .missingNode
  | fuel + 1, inBlock, isMember => do
    if let some (.reference name) ← peek? then
      skip
      match (← get).anchors.find? name with
      | some number => return .reference number
      | none => throw .unknownAnchor
    let p ← properties
    match ← peek? with
    | some (.scalar text writing) =>
      skip
      return .scalar (Properties.ofScalar p) text writing
    | some .blockEntry =>
      if isMember then return .sequence p (← memberItems fuel) else bare p
    | some .flowSequenceStart =>
      skip
      return .sequence p (← flowItems fuel true)
    | some .flowMappingStart =>
      skip
      return .mapping p (← flowMembers fuel true)
    | some .blockSequenceStart =>
      if inBlock then
        skip
        return .sequence p (← blockItems fuel)
      else bare p
    | some .blockMappingStart =>
      if inBlock then
        skip
        return .mapping p (← blockMembers fuel)
      else bare p
    | _ => bare p

/-- The items of a sequence in the column of a key. -/
def memberItems : Nat → Reader (List Node)
  | 0 => throw .missingNode
  | fuel + 1 => do
    unless ← accept .blockEntry do return []
    let item ← unless? [.blockEntry, .key, .value, .blockEnd] (read fuel true false)
    return item :: (← memberItems fuel)

/-- The items of a block. -/
def blockItems : Nat → Reader (List Node)
  | 0 => throw .missingNode
  | fuel + 1 => do
    unless ← accept .blockEntry do
      expect .blockEnd
      return []
    let item ← unless? [.blockEntry, .blockEnd] (read fuel true false)
    return item :: (← blockItems fuel)

/-- The members of a block. -/
def blockMembers : Nat → Reader (List (Node × Node))
  | 0 => throw .missingNode
  | fuel + 1 => do
    unless ← accept .key do
      expect .blockEnd
      return []
    let key ← unless? [.key, .value, .blockEnd] (read fuel true true)
    let value ←
      if ← accept .value then unless? [.key, .value, .blockEnd] (read fuel true true)
      else pure absent
    return (key, value) :: (← blockMembers fuel)

/-- The items of a sequence in brackets. A member stands for a mapping of it alone; when its key is
not written, a token is passed over. -/
def flowItems : Nat → (isFirst : Bool) → Reader (List Node)
  | 0, _ => throw .missingNode
  | fuel + 1, isFirst => do
    if ← accept .flowSequenceEnd then return []
    unless isFirst do expect .flowEntry
    if ← accept .flowSequenceEnd then return []
    let item ←
      if ← accept .key then
        let key ←
          if ← isNext [.value, .flowEntry, .flowSequenceEnd] then
            skip
            pure absent
          else read fuel false false
        let value ←
          if ← accept .value then unless? [.flowEntry, .flowSequenceEnd] (read fuel false false)
          else pure absent
        pure (.mapping ⟨none, none⟩ [(key, value)])
      else read fuel false false
    return item :: (← flowItems fuel false)

/-- The members of a mapping in brackets. -/
def flowMembers : Nat → (isFirst : Bool) → Reader (List (Node × Node))
  | 0, _ => throw .missingNode
  | fuel + 1, isFirst => do
    if ← accept .flowMappingEnd then return []
    unless isFirst do expect .flowEntry
    if ← accept .flowMappingEnd then return []
    let member ←
      if ← accept .key then
        let key ← unless? [.value, .flowEntry, .flowMappingEnd] (read fuel false false)
        let value ←
          if ← accept .value then unless? [.flowEntry, .flowMappingEnd] (read fuel false false)
          else pure absent
        pure (key, value)
      else
        let key ← read fuel false false
        pure (key, absent)
    return member :: (← flowMembers fuel false)

end

/-! ### Documents -/

/-- The handles that need no directive. -/
def standardHandles : Table String String := [("!", "!"), ("!!", "tag:yaml.org,2002:")]

/-- Reads the directives in front of a document. A version and each handle are declared once. -/
def directives : Nat → (hasVersion : Bool) → (declared : Table String String) →
    Reader (Bool × Table String String)
  | 0, hasVersion, declared => return (hasVersion, declared)
  | fuel + 1, hasVersion, declared => do
    match ← peek? with
    | some (.directive (.version major minor)) =>
      if hasVersion || major ≠ 1 || (minor ≠ 1 && minor ≠ 2) then throw .invalidDirective
      skip
      directives fuel true declared
    | some (.directive (.handle name stem)) =>
      if declared.has name then throw .invalidDirective
      skip
      directives fuel hasVersion (declared.insert name stem)
    | _ => return (hasVersion, declared)

/-- Takes away the markers behind a document. -/
def endMarkers (r : Reading) : Reading :=
  { r with rest := r.rest.dropWhile (· = .documentEnd) }

/-- The tree of the only document. -/
def document (fuel : Nat) : Reader Node := do
  let (hasVersion, declared) ← directives fuel false []
  modify fun r => { r with handles := standardHandles.insertAll declared }
  let root ←
    if ← accept .documentStart then
      match ← peek? with
      | none | some .documentStart | some .documentEnd | some (.directive _) => pure absent
      | some _ => read fuel true false
    else if hasVersion || !declared.isEmpty then throw .invalidDirective
    else if (← peek?).isNone then throw .noDocument
    else read fuel true false
  modify endMarkers
  unless (← peek?).isNone do throw .severalDocuments
  return root

/-- The tree of the only document of tokens. Between two tokens that are taken away there are at
most three calls. -/
def ofTokens (tokens : List Token) : Except Fault Node := do
  let (root, _) ← (document (3 * tokens.length + 8)).run ⟨tokens, [], []⟩
  return root

/-! ### References -/

mutual

/-- The nodes with anchors, in written order. -/
def anchored : Node → List (Nat × Node)
  | .scalar p text writing => (p.anchor.map fun n => (n, scalar p text writing)).toList
  | .sequence p items =>
    (p.anchor.map fun n => (n, sequence p items)).toList ++ anchoredItems items
  | .mapping p members =>
    (p.anchor.map fun n => (n, mapping p members)).toList ++ anchoredMembers members
  | .reference _ => []

/-- The nodes with anchors of a sequence. -/
def anchoredItems : List Node → List (Nat × Node)
  | [] => []
  | item :: items => anchored item ++ anchoredItems items

/-- The nodes with anchors of a mapping. -/
def anchoredMembers : List (Node × Node) → List (Nat × Node)
  | [] => []
  | (key, value) :: members => anchored key ++ anchored value ++ anchoredMembers members

/-- The number of marks that a node consists of: one for a scalar or a reference, two around a
collection. -/
def size : Node → Nat
  | .scalar _ _ _ => 1
  | .sequence _ items => 2 + sizeItems items
  | .mapping _ members => 2 + sizeMembers members
  | .reference _ => 1

/-- The number of marks in a sequence. -/
def sizeItems : List Node → Nat
  | [] => 0
  | item :: items => size item + sizeItems items

/-- The number of marks in a mapping. -/
def sizeMembers : List (Node × Node) → Nat
  | [] => 0
  | (key, value) :: members => size key + size value + sizeMembers members

end

end Node

/-- A document: its tree and its nodes with anchors, the last first. -/
structure Document where
  root : Node
  anchors : List (Nat × Node)

namespace Document

/-- The node that a node stands for. -/
def target? (d : Document) : Node → Option Node
  | .reference number => d.anchors.lookup number
  | node => some node

/-- How many levels of collections a reader follows. -/
def maxLevel : Nat := 128

/-- How many references are left of a number of them when a node is read with all that the
references in it stand for, down to a level; none when there are too few. -/
def spend (d : Document) : (levels : Nat) → Node → Nat → Option Nat
  | 0, _, budget => some budget
  | levels + 1, node, budget =>
    match node with
    | .scalar _ _ _ => some budget
    | .sequence _ items => items.foldlM (fun budget item => spend d levels item budget) budget
    | .mapping _ members =>
      members.foldlM (fun budget m => do
        spend d levels m.2 (← spend d levels m.1 budget)) budget
    | .reference number =>
      match budget, d.anchors.lookup number with
      | 0, _ => none
      | budget + 1, some node => spend d levels node budget
      | budget + 1, none => some budget

/-- The document of a text. Its references may be followed a hundred times as often as it has
marks. -/
def ofText (text : String) : Except Fault Document := do
  let root ← Node.ofTokens (← Token.ofText text)
  let d : Document := ⟨root, root.anchored.reverse⟩
  match d.spend (2 * maxLevel) root (100 * root.size) with
  | some _ => return d
  | none => throw .tooManyReferences

end Document

end ApiContract.Yaml
