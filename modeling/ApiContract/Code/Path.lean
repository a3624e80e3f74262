import ApiContract.Code.Identifier

/-!
# Paths

A path is a sequence of segments between double colons, each with or without type arguments. The
readers here decide where a type ends and keep only the segments of the outermost path.
-/

namespace ApiContract.Code

/-- Whether a segment has type arguments, and whether a double colon stands before them. -/
inductive Arguments where
  | absent
  | adjacent
  | separate
  deriving DecidableEq, Repr

/-- A segment of a path. -/
structure Segment where
  name : Identifier
  arguments : Arguments
  deriving DecidableEq, Repr

/-- A path; an absolute one starts with a double colon. -/
structure Path where
  isAbsolute : Bool
  segments : List Segment
  deriving DecidableEq, Repr

/-! ### Types -/

/-- What follows a double colon at the start of the tokens. -/
def afterColons? : List Token → Option (List Token)
  | .mark ':' true :: .mark ':' _ :: ts => some ts
  | _ => none

/-- The reserved words that may name a segment. -/
def segmentWords : List String := ["super", "self", "crate", "try"]

/-- The name of a segment, and whether arguments may follow it. -/
def segmentName? : Token → Option (Identifier × Bool)
  | .word false name =>
    if segmentWords.contains name then some (.plain name, false)
    else if name == "Self" then some (.plain name, true)
    else (Identifier.ofToken? (.word false name)).map (·, true)
  | t => (Identifier.ofToken? t).map (·, true)

/-- Whether an angle bracket opens at the start of the tokens. -/
def opensAngle : List Token → Bool
  | .mark '<' true :: .mark '=' _ :: _ => false
  | .mark '<' _ :: _ => true
  | _ => false

/-- The tokens after a lifetime, if there is one. -/
def skipLifetime : List Token → List Token
  | .mark '\'' _ :: .word _ _ :: ts => ts
  | ts => ts

/-- The tokens after the group that is open, given its depth. -/
def afterGroup : Nat → List Token → Option (List Token)
  | _, [] => none
  | depth, .opening _ :: ts => afterGroup (depth + 1) ts
  | depth, .closing _ :: ts => if depth ≤ 1 then some ts else afterGroup (depth - 1) ts
  | depth, _ :: ts => afterGroup depth ts

mutual

/-- The tokens after a type, given a bound on its depth. -/
def afterType : Nat → List Token → Option (List Token)
  | 0, _ => none
  | n + 1, ts =>
    match ts with
    | .opening '(' :: ts => afterTypes n ')' ts
    | .opening '[' :: ts => do
      match ← afterType n ts with
      | .closing ']' :: ts => some ts
      | .mark ';' _ :: .literal :: .closing ']' :: ts => some ts
      | .mark ';' _ :: .word _ _ :: .closing ']' :: ts => some ts
      | _ => none
    | .mark '&' _ :: ts =>
      match skipLifetime ts with
      | .word false "mut" :: ts => afterType n ts
      | ts => afterType n ts
    | .mark '*' _ :: .word false "const" :: ts => afterType n ts
    | .mark '*' _ :: .word false "mut" :: ts => afterType n ts
    | .mark '!' _ :: ts => some ts
    | .word false "_" :: ts => some ts
    | .word false "dyn" :: ts => afterBounds n ts
    | .word false "impl" :: ts => afterBounds n ts
    | ts => do
      let (_, rest) ← segmentsIn n true ((afterColons? ts).getD ts)
      match rest with
      | .mark '+' _ :: rest => afterBounds n rest
      | rest => some rest

/-- The tokens after bounds joined by plus signs. -/
def afterBounds : Nat → List Token → Option (List Token)
  | 0, _ => none
  | n + 1, ts => do
    let rest ← (match ts with
      | .mark '\'' _ :: .word _ _ :: ts => some ts
      | .mark '?' _ :: ts => (segmentsIn n true ((afterColons? ts).getD ts)).map (·.2)
      | ts => (segmentsIn n true ((afterColons? ts).getD ts)).map (·.2))
    match rest with
    | .mark '+' _ :: rest => afterBounds n rest
    | rest => some rest

/-- The tokens after types between commas and the bracket that closes them. -/
def afterTypes : Nat → Char → List Token → Option (List Token)
  | 0, _, _ => none
  | n + 1, close, ts =>
    match ts with
    | .closing c :: ts => if c == close then some ts else none
    | ts => do
      match ← afterType n ts with
      | .mark ',' _ :: ts => afterTypes n close ts
      | .closing c :: ts => if c == close then some ts else none
      | _ => none

/-- The tokens after one type argument. -/
def afterArgument : Nat → List Token → Option (List Token)
  | 0, _ => none
  | n + 1, ts =>
    match ts with
    | .mark '\'' _ :: .word _ _ :: ts => some ts
    | .literal :: ts => some ts
    | .mark '-' _ :: .literal :: ts => some ts
    | .word false "true" :: ts => some ts
    | .word false "false" :: ts => some ts
    | .opening '\x7b' :: ts => afterGroup 1 ts
    | ts => do
      match ts, ← afterType n ts with
      | .word _ _ :: _, .mark '=' _ :: .literal :: rest => some rest
      | .word _ _ :: _, .mark '=' _ :: rest => afterType n rest
      | .word _ _ :: _, .mark ':' false :: rest => afterBounds n rest
      | _, rest => some rest

/-- The tokens after type arguments up to the closing angle bracket. -/
def afterArguments : Nat → List Token → Option (List Token)
  | 0, _ => none
  | n + 1, ts =>
    match ts with
    | .mark '>' _ :: ts => some ts
    | ts => do
      match ← afterArgument n ts with
      | .mark ',' _ :: ts => afterArguments n ts
      | .mark '>' _ :: ts => some ts
      | _ => none

/-- The segments at the start of the tokens and what follows them. Within a type, a segment may also
have arguments in round brackets. -/
def segmentsIn : Nat → Bool → List Token → Option (List Segment × List Token)
  | 0, _, _ => none
  | _ + 1, _, [] => none
  | n + 1, inType, t :: ts => do
    let (name, takesArguments) ← segmentName? t
    let (arguments, rest) ← (
      if takesArguments && opensAngle ts then
        (afterArguments n (ts.drop 1)).map (Arguments.adjacent, ·)
      else
        match takesArguments, afterColons? ts with
        | true, some rest =>
          if opensAngle rest then (afterArguments n (rest.drop 1)).map (Arguments.separate, ·)
          else some (Arguments.absent, ts)
        | _, _ =>
          match takesArguments && inType, ts with
          | true, .opening '(' :: inner => do
            match ← afterTypes n ')' inner with
            | .mark '-' true :: .mark '>' _ :: rest =>
              (afterType n rest).map (Arguments.adjacent, ·)
            | rest => some (Arguments.adjacent, rest)
          | _, _ => some (Arguments.absent, ts))
    match afterColons? rest with
    | some after => do
      let (more, rest) ← segmentsIn n inType after
      return (⟨name, arguments⟩ :: more, rest)
    | none => return ([⟨name, arguments⟩], rest)

end

namespace Path

/-- The path that tokens are. -/
def ofTokens? (ts : List Token) : Option Path :=
  let (isAbsolute, rest) := match afterColons? ts with
    | some rest => (true, rest)
    | none => (false, ts)
  match segmentsIn (ts.length + 1) false rest with
  | some (segments, []) => some ⟨isAbsolute, segments⟩
  | _ => none

/-- The path that a text has to be. -/
def parse (s : String) : Except Error Path :=
  match (tokens? s).bind ofTokens? with
  | some p => .ok p
  | none => .error (.code (.notPath s))

/-- A path without arguments as it stands in the code. -/
def text (p : Path) : String :=
  (if p.isAbsolute then "::" else "") ++
    String.intercalate "::" (p.segments.map fun s => s.name.text)

/-- Why names cannot be imported from a path: the first segment that is `Self` or has arguments. -/
def importFault? (p : Path) : Option CodeError :=
  p.segments.findSome? fun s =>
    if s.name == .plain "Self" then some .importName
    else
      match s.arguments with
      | .absent => none
      | .adjacent => some .importEnd
      | .separate => some .importName

end Path

end ApiContract.Code
