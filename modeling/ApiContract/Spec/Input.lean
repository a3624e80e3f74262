import ApiContract.Decode

/-!
# Inputs of operations

Every input names a source that says where its value travels in the HTTP request. The parameters of
the document and the requests of the client are both derived from `InputSource.binding`.
-/

namespace ApiContract

open Decode

/-- Where the value of an input travels. `other` keeps a name outside the known ones. -/
inductive InputSource where
  | query
  | queries
  | body
  | params
  | headers
  | internal
  | other (raw : String)
  deriving DecidableEq, Repr

/-- A location of a parameter in the document. -/
inductive Location where
  | query
  | path
  | header
  deriving DecidableEq, Repr

/-- What a source means: a parameter, a part of the body, no part of the request, or nothing that is
known. -/
inductive Binding where
  | location (l : Location)
  | body
  | excluded
  | unknown (raw : String)
  deriving DecidableEq, Repr

/-- The name of a location in the document. -/
def Location.name : Location → String
  | .query => "query"
  | .path => "path"
  | .header => "header"

namespace InputSource

/-- The name of a source. -/
def name : InputSource → String
  | .query => "query"
  | .queries => "queries"
  | .body => "body"
  | .params => "params"
  | .headers => "headers"
  | .internal => "internal"
  | .other raw => raw

/-- The sources with names of their own. -/
def known : List InputSource := [.query, .queries, .body, .params, .headers, .internal]

/-- The source of a name. -/
def ofName (s : String) : InputSource := (known.find? fun k => k.name == s).getD (.other s)

/-- What a source means. -/
def binding : InputSource → Binding
  | .query | .queries => .location .query
  | .params => .location .path
  | .headers => .location .header
  | .body => .body
  | .internal => .excluded
  | .other raw => .unknown raw

/-- Whether a source is one of the known ones. -/
def isKnown : InputSource → Bool
  | .other _ => false
  | _ => true

/-- Reads a source. -/
def decode {ν ε : Type} [Source ν ε] (v : ν) : Except ε InputSource :=
  return ofName (← Source.text v)

/-- The JSON value of a source. -/
def toJson (s : InputSource) : Json := .string s.name

/-- A name is kept by the source it gives. -/
theorem name_ofName (s : String) : (ofName s).name = s := by
  unfold ofName
  cases h : known.find? fun k => k.name == s with
  | none => rfl
  | some k => simpa using List.find?_some h

end InputSource

/-- An input of an operation: its source, the expression of its schema, whether it has to be given
and whether it may be null. -/
structure InputField where
  source : InputSource
  schema : String
  required : Bool
  nullable : Bool
  deriving DecidableEq, Repr

namespace InputField

/-- The values of absent fields. -/
def blank : InputField := ⟨.other "", "", true, false⟩

/-- The fields of an input. -/
def fields {ν ε : Type} [Source ν ε] : List (Field ν ε InputField) := [
  ⟨"source", true, fun v f => return { f with source := (← InputSource.decode v) }⟩,
  ⟨"schema", true, fun v f => return { f with schema := (← Source.text v) }⟩,
  ⟨"required", false, fun v f => return { f with required := (← Source.flag v) }⟩,
  ⟨"nullable", false, fun v f => return { f with nullable := (← Source.flag v) }⟩]

/-- Reads an input. -/
def decode {ν ε : Type} [Source ν ε] (v : ν) : Except ε InputField :=
  record "InputField" fields blank v

/-- The JSON value of an input. -/
def toJson (f : InputField) : Json := .object [
  ("source", f.source.toJson), ("schema", .string f.schema), ("required", .bool f.required),
  ("nullable", .bool f.nullable)]

end InputField

/-- An input under its name, as the document sees it. -/
structure Selector where
  name : String
  expression : String
  source : InputSource
  nullable : Bool
  required : Bool
  deriving DecidableEq, Repr

namespace Selector

/-- A required input that is never null. -/
def new (name expression : String) (source : InputSource) : Selector :=
  ⟨name, expression, source, false, true⟩

/-- The same input, not required. -/
def optional (s : Selector) : Selector := { s with required := false }

/-- The input of a name. -/
def ofField (name : String) (f : InputField) : Selector :=
  ⟨name, f.schema, f.source, f.nullable, f.required⟩

/-- The fields of a selector. -/
def fields {ν ε : Type} [Source ν ε] : List (Field ν ε Selector) := [
  ⟨"name", true, fun v s => return { s with name := (← Source.text v) }⟩,
  ⟨"expression", true, fun v s => return { s with expression := (← Source.text v) }⟩,
  ⟨"source", true, fun v s => return { s with source := (← InputSource.decode v) }⟩,
  ⟨"nullable", false, fun v s => return { s with nullable := (← Source.flag v) }⟩,
  ⟨"required", false, fun v s => return { s with required := (← Source.flag v) }⟩]

/-- Reads a selector. -/
def decode {ν ε : Type} [Source ν ε] (v : ν) : Except ε Selector :=
  record "Selector" fields (new "" "" (.other "")) v

/-- The JSON value of a selector. -/
def toJson (s : Selector) : Json := .object [
  ("name", .string s.name), ("expression", .string s.expression), ("source", s.source.toJson),
  ("nullable", .bool s.nullable), ("required", .bool s.required)]

end Selector

end ApiContract
