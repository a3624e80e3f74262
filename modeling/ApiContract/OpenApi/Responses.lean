import ApiContract.OpenApi.Schema
import ApiContract.Spec.Basic
import ApiContract.Trace

/-!
# Responses of an operation

The responses that items declare are merged, one item after another, into one object a status. An
object has the content of every content type and, when headers are named, the headers. Where an item
meets a schema of its status and content type, the two become alternatives of each other unless they
are the same; a schema that is already a list of alternatives takes one more.
-/

namespace ApiContract

/-- Response objects by status. -/
abbrev Responses := Table String Json

namespace Response

/-- The schema of an item. -/
def schemaOf (item : ResponseItem) : Json :=
  if item.isOctetStream then Schema.binary else Schema.ofNode? item.responseType

/-- Whether a schema is among others. -/
def isAmong (schema : Json) (schemas : List Json) : Bool := schemas.any (Json.same · schema)

/-- The object of a header. -/
def headerJson : Json := .object [("schema", Schema.type "string")]

/-- The object of a content type. -/
def contentJson (schema : Json) : Json := .object [("schema", schema)]

/-- Headers with more names; a name that is there already stays. -/
def addNames (names : List String) (headers : Table String Json) : Table String Json :=
  names.foldl (fun headers name => Table.alter name (·.getD headerJson) headers) headers

/-- The response object of a status whose only item is `item`. -/
def ofItem (item : ResponseItem) : Json := .object (
  [("description", .string ("Response for " ++ item.statusCode)),
    ("content", .object [(item.contentType, contentJson (schemaOf item))])] ++
  if item.headers.isEmpty then [] else [("headers", .object (addNames item.headers []))])

/-- A response object with more headers. -/
def addHeaders (names : List String) (response : Json) : Json :=
  if names.isEmpty then response
  else response.alterMember "headers" fun old =>
    match old.getD (.object []) with
    | .object headers => .object (addNames names headers)
    | other => other

/-- What becomes of a schema when another one is declared for the same status and content type, and
what the log says about it. -/
def meet (schema existing : Json) : String × Json :=
  match (existing.member? "oneOf").bind Json.items? with
  | some schemas =>
    if isAmong schema schemas then ("schema already in oneOf", existing)
    else ("appending to oneOf",
      existing.alterMember "oneOf" fun _ => .array (schemas ++ [schema]))
  | none =>
    if existing.same schema then ("coalesced identical schema", existing)
    else ("promoting schema to oneOf", .object [("oneOf", .array [existing, schema])])

/-- The content of a response with the schema of an item, and what the log says about it. -/
def addSchema (item : ResponseItem) (content : Table String Json) : Event × Table String Json :=
  let status := ("status", item.statusCode)
  match Table.find? item.contentType content with
  | none =>
    (⟨.trace, "sibling content type", [status, ("content_type", item.contentType)]⟩,
      content.insert item.contentType (contentJson (schemaOf item)))
  | some entry =>
    let (message, schema) := meet (schemaOf item) ((entry.member? "schema").getD .null)
    (⟨.trace, message, [status]⟩,
      content.insert item.contentType (entry.alterMember "schema" fun _ => schema))

/-- A response object with one more item, and what the log says about it. -/
def add (item : ResponseItem) (response : Json) : List Event × Json :=
  let response := addHeaders item.headers response
  match (response.member? "content").bind Json.members? with
  | none => ([], response)
  | some content =>
    let (event, content) := addSchema item content
    ([event], response.alterMember "content" fun _ => .object content)

end Response

namespace Responses

/-- Responses with one more item, and what the log says about it. -/
def merge (item : ResponseItem) (table : Responses) : List Event × Responses :=
  match table.find? item.statusCode with
  | none =>
    ([⟨.trace, "new response", [("status", item.statusCode), ("content_type", item.contentType)]⟩],
      table.insert item.statusCode (Response.ofItem item))
  | some response =>
    let (events, response) := Response.add item response
    (events, table.insert item.statusCode response)

/-- Responses with more items, one after another, and what the log says. -/
def mergeAll {η : Type} (table : Responses) : List ResponseItem → Traced η Responses
  | [] => return table
  | item :: rest => do
    let (events, table) := merge item table
    Traced.logAll events
    mergeAll table rest

/-- Responses of items, merged from nothing. -/
def ofItems (items : List ResponseItem) : Responses :=
  items.foldl (fun table item => (merge item table).2) []

end Responses

end ApiContract
