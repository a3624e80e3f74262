import ApiContract.Client.Encoding
import ApiContract.Client.Placement
import ApiContract.Text.Quoted
import ApiContract.Json.Printer

/-!
# Requests

A request plan says where the members of an input object go; `RequestPlan.build` makes the HTTP
request. Members outside the plan are ignored and `null` counts as absent.
-/

namespace ApiContract.Client

/-- How the request of one endpoint is built. -/
structure RequestPlan where
  method : String
  path : String
  headers : List String
  query : List String
  body : List String
  params : List String
  encoding : Encoding

/-- What all requests of a client share. -/
structure RequestContext where
  baseUrl : String
  headers : List (String × String)

/-- An encoded body. -/
inductive RequestBody where
  | json (value : Json)
  | form (fields : List (String × String))
  | multipart (fields : List (String × Json))
  | raw (contentType : String) (fields : List (String × Json))

/-- An HTTP request. -/
structure HttpRequest where
  method : String
  url : String
  headers : List (String × String)
  query : List (String × String)
  body : Option RequestBody

/-- Why no request can be built from an input. -/
inductive InputError where
  | notAnObject
  | missingPathParam (name : String)
  | unsupported (field location : String)
  deriving DecidableEq, Repr

/-- The text of an input error. -/
def InputError.message : InputError → String
  | .notAnObject => "request input must be a JSON object"
  | .missingPathParam name => "missing path parameter `" ++ name ++ "`"
  | .unsupported field location =>
    "field `" ++ field ++ "` cannot be sent in the " ++ location

/-! ### Values -/

/-- The member of an object that is there and not `null`. -/
def present (fields : Table String Json) (name : String) : Option Json :=
  match fields.find? name with
  | some .null | none => none
  | some v => some v

/-- The text of a value that is no list and no object. -/
def scalar (field location : String) : Json → Except InputError String
  | .string s => .ok s
  | .number n => .ok n.text
  | .bool b => .ok (Json.boolText b)
  | _ => .error (.unsupported field location)

/-- A character of a path segment that stands for itself. -/
def isUnreserved (b : UInt8) : Bool :=
  (Char.ofNat b.toNat).isAlphanum || b == 0x2D || b == 0x2E || b == 0x5F || b == 0x7E

/-- A byte of a path segment. -/
def percentByte (b : UInt8) : List Char :=
  if isUnreserved b then [Char.ofNat b.toNat]
  else '%' :: (Text.hexPadded 2 b.toNat).map Char.toUpper

/-- A text as a path segment: each byte of its UTF-8 form is an unreserved character or written as
a percent sign with two digits. -/
def percentEncoded (s : String) : String :=
  String.ofList (s.toUTF8.toList.flatMap percentByte)

/-! ### Text -/

/-- A text with every occurrence of `old` replaced, from left to right; `skip` characters are still
part of the last occurrence. -/
def replaceAux (old new : List Char) : Nat → List Char → List Char
  | _, [] => []
  | skip + 1, _ :: cs => replaceAux old new skip cs
  | 0, c :: cs =>
    if old.isPrefixOf (c :: cs) then new ++ replaceAux old new (old.length - 1) cs
    else c :: replaceAux old new 0 cs

/-- A text with every occurrence of a text that is not empty replaced, from left to right. -/
def replaceAll (old new s : String) : String :=
  String.ofList (replaceAux old.toList new.toList 0 s.toList)

/-- A placeholder of a path. -/
def placeholder (name : String) : String := "\x7b" ++ name ++ "\x7d"

/-- A text without the slashes at its end. -/
def dropSlashes (s : String) : String :=
  String.ofList (s.toList.reverse.dropWhile (· == '/')).reverse

/-! ### Building -/

namespace RequestPlan

/-- The path with the placeholders of parameters replaced one after another. -/
def fillPath (fields : Table String Json) : List String → String → Except InputError String
  | [], path => .ok path
  | name :: rest, path =>
    match present fields name with
    | none => .error (.missingPathParam name)
    | some v => do
      let segment ← scalar name "path" v
      fillPath fields rest (replaceAll (placeholder name) (percentEncoded segment) path)

/-- The headers of the members that are present. -/
def headerFields (fields : Table String Json) :
    List String → Except InputError (List (String × String))
  | [] => .ok []
  | name :: rest =>
    match present fields name with
    | none => headerFields fields rest
    | some v => do
      let text ← scalar name "header" v
      return (name, text) :: (← headerFields fields rest)

/-- The texts of one query member: one, or one for each item of a list. -/
def queryTexts (name : String) : Json → Except InputError (List String)
  | .array items => items.mapM (scalar name "query")
  | v => return [← scalar name "query" v]

/-- The query of the members that are present. -/
def queryFields (fields : Table String Json) :
    List String → Except InputError (List (String × String))
  | [] => .ok []
  | name :: rest =>
    match present fields name with
    | none => queryFields fields rest
    | some v => do
      let texts ← queryTexts name v
      return texts.map (name, ·) ++ (← queryFields fields rest)

/-- The members of a body that are present. -/
def bodyFields (fields : Table String Json) (names : List String) : Table String Json :=
  Table.ofList (names.filterMap fun name => (present fields name).map (name, ·))

/-- The body in an encoding. -/
def encodeBody (encoding : Encoding) (fields : Table String Json) :
    Except InputError RequestBody :=
  match encoding with
  | .json => .ok (.json (.object fields))
  | .form => do
    return .form (← fields.mapM fun f => do return (f.1, (← scalar f.1 "form body" f.2)))
  | .multipart => .ok (.multipart fields)
  | .raw contentType => .ok (.raw contentType fields)

/-- The request for an input. -/
def build (plan : RequestPlan) (context : RequestContext) (input : Json) :
    Except InputError HttpRequest :=
  match input with
  | .object fields => do
    let path ← fillPath fields plan.params plan.path
    let headers ← headerFields fields plan.headers
    let query ← queryFields fields plan.query
    let body ← (
      if plan.body.isEmpty then .ok none
      else (encodeBody plan.encoding (bodyFields fields plan.body)).map some)
    return ⟨plan.method, dropSlashes context.baseUrl ++ path, context.headers ++ headers, query,
      body⟩
  | _ => .error .notAnObject

end RequestPlan

/-! ### Failed validation -/

/-- A validator's words about an input of a type. -/
structure ParseFailure where
  inputType : String
  message : String

/-- The text of a failed validation. -/
def ParseFailure.display (f : ParseFailure) : String := "invalid input: " ++ f.message

/-- The parts of a failed validation. -/
def ParseFailure.debug (f : ParseFailure) : String :=
  "ParseFailure \x7b input: " ++ Text.quoted f.inputType ++ ", message: " ++
    Text.quoted f.message ++ " \x7d"

end ApiContract.Client
