import ApiContract.Client.Request
import ApiContract.Code.Layout
import ApiContract.Code.Path

/-!
# Items of the generated client

A generated module is a list of items; this module holds their types and how each is laid out.
-/

namespace ApiContract.Client

open Code

/-! ### Documentation -/

/-- A text without the spaces at its end. -/
def dropEndSpaces (cs : List Char) : List Char := (cs.reverse.dropWhile (· == ' ')).reverse

/-- A text without the spaces at the end of every line but the last. -/
def dropLineEndSpaces (cs : List Char) : List Char :=
  match (Text.splitBy (· == '\n') cs).reverse with
  | [] => []
  | last :: before =>
    before.reverse.flatMap (fun line => dropEndSpaces line ++ ['\n']) ++ last

/-- Whether the block comments in a text are closed where they have to be. -/
def blocksClosed (depth : Nat) : List Char → Bool
  | '/' :: '*' :: cs => blocksClosed (depth + 1) cs
  | '*' :: '/' :: cs => if depth = 0 then false else blocksClosed (depth - 1) cs
  | _ :: cs => blocksClosed depth cs
  | [] => depth == 0

/-- Whether a text can stand in a block comment. -/
def fitsBlock (cs : List Char) : Bool := blocksClosed 0 cs && cs.getLast? != some '/'

/-- A documentation comment: a line if the text has one line, a block if the text can stand in one,
else an attribute. The three markers are those of the kind of comment. -/
def docText (lineMark blockMark attributeMark doc : String) : String :=
  let cs := doc.toList
  if !cs.contains '\n' then lineMark ++ String.ofList (dropEndSpaces cs)
  else if fitsBlock cs then blockMark ++ String.ofList (dropLineEndSpaces cs) ++ "*/"
  else attributeMark ++ "[doc = " ++ Text.literal doc ++ "]"

/-- The documentation of the item that follows. -/
def itemDoc (doc : String) : List Layout := [.text (docText "///" "/**" "#" doc), .line]

/-- The documentation of the module around. -/
def moduleDoc (doc : String) : List Layout := [.text (docText "//!" "/*!" "#!" doc), .line]

/-! ### Items -/

/-- A text constant. -/
structure Constant where
  doc : String
  name : Identifier
  value : String

/-- A row of the dispatch table. -/
structure Row where
  key : String
  schema : Path
  build : Identifier

/-- An item of a generated module. -/
inductive Item where
  /-- Names imported from a path. -/
  | imports (path : String) (names : List Identifier)
  /-- A module in a file of its own. -/
  | submodule (name : Identifier)
  /-- A module that holds constants. -/
  | bindings (doc : String) (name : Identifier) (constants : List Constant)
  | constant (c : Constant)
  /-- A type for an error without data. -/
  | errorType (name : Identifier) (message : String)
  /-- A type without values of its own that stands for an endpoint. -/
  | marker (doc : String) (name : Identifier)
  | endpoint (marker : Identifier) (key : String) (schema : Path) (output : OutputFormat)
    (errors : Identifier)
  | streamEndpoint (marker : Identifier) (key : String) (schema : Path) (item : OutputFormat)
  /-- The union of the errors of an endpoint, with a last variant for failed validation. -/
  | union (marker name : Identifier) (errors : List Identifier) (invalid : Identifier)
  | keyList (doc : String) (name : Identifier) (keys : List String)
  /-- A function that builds requests. -/
  | builder (doc : String) (name : Identifier) (plan : RequestPlan)
  | rows (doc : String) (name : Identifier) (rows : List Row)
  /-- A function that finds the row of a key. -/
  | lookup (doc : String) (name table : Identifier)

namespace Item

/-! ### Parts -/

/-- A string literal. -/
def string (s : String) : Layout := .text (Text.literal s)

/-- Lines of text. -/
def textLines (all : List String) : List Layout := all.flatMap fun s => [.text s, .line]

/-- A body one level deep between braces. -/
def block (head : List Layout) (body : List (List Layout)) : List Layout :=
  [.box .consistent Layout.indentation (head ++ [.line] ++
      (body.intersperse [.line]).flatten ++ [.lastLine]),
    .text "\x7d", .line]

/-- The type that a format decodes to. -/
def outputType : OutputFormat → String
  | .json => "serde_json::Value"
  | .text => "String"
  | .binary => "Vec<u8>"
  | .empty => "()"

/-- The head of an implementation. -/
def implHead (trait : String) (marker : Identifier) : List Layout := [
  .box .inconsistent (-Layout.indentation)
    [.text ("impl " ++ trait), .space, .text ("for " ++ marker.text)],
  .text " \x7b"]

/-- The constants and types that both kinds of endpoints have. -/
def endpointParts (key : String) (schema : Path) : List (List Layout) := [
  [.text ("const KEY: &'static str = " ++ Text.literal key ++ ";")],
  [.text ("const SCHEMA: &'static str = " ++ schema.text ++ ";")],
  [.text "type Input = serde_json::Value;"]]

/-- A variant that holds a value of another type. -/
def unionVariant (name : Identifier) (type : List Layout) : List Layout :=
  [.text "#[error(transparent)]", .line, .text name.text,
    .box .consistent Layout.indentation
      ([.text "(", .zero, .text "#[from]", .space] ++ type ++ [.lastComma 0, .text ")"]),
    .text ","]

/-- The type of failed validation of the input of an endpoint. -/
def failureType (marker : Identifier) : List Layout := [
  .text "ParseFailure<",
  .box .consistent Layout.indentation
    [.zero, .text ("<" ++ marker.text ++ " as Endpoint>::Input"), .lastComma 0],
  .text ">"]

/-- The fields of a record, one a line. -/
def recordFields (fields : List (List Layout)) : Layout :=
  let closed := fields.map fun f => f ++ [.text ","]
  .box .consistent Layout.indentation
    ([.line] ++ (closed.intersperse [.line]).flatten ++ [.lastLine])

/-- A list of strings. -/
def stringSlice (items : List String) : List Layout :=
  .text "&" :: Layout.bracketed "[" "]" (items.map fun s => [string s])

/-- An encoding. -/
def encoding : Encoding → List Layout
  | .json => [.text "BodyEncoding::Json"]
  | .form => [.text "BodyEncoding::Form"]
  | .multipart => [.text "BodyEncoding::Multipart"]
  | .raw contentType => .text "BodyEncoding::Raw" :: Layout.bracketed "(" ")" [[string contentType]]

/-- The fields of a request plan. -/
def planFields (p : RequestPlan) : List (List Layout) := [
  [.text "method: ", string p.method],
  [.text "path: ", string p.path],
  .text "headers: " :: stringSlice p.headers,
  .text "query: " :: stringSlice p.query,
  .text "body: " :: stringSlice p.body,
  .text "params: " :: stringSlice p.params,
  .text "encoding: " :: encoding p.encoding]

/-- A row of the dispatch table. -/
def rowLayout (r : Row) : List Layout := [
  .text "Dispatch \x7b",
  recordFields [[.text "key: ", string r.key], [.text ("schema: " ++ r.schema.text)],
    [.text ("build: " ++ r.build.text)]],
  .text "\x7d"]

/-- A text constant. -/
def constantText (c : Constant) : String :=
  "pub const " ++ c.name.text ++ ": &str = " ++ Text.literal c.value ++ ";"

/-- The imported names: one stands alone, several stand in braces. -/
def importNames : List Identifier → List Layout
  | [name] => [.text name.text]
  | [] => [.text "\x7b\x7d"]
  | names => [.box .consistent Layout.indentation [
      .text "\x7b", .zero,
      .box .inconsistent 0 (Layout.commaList .space (names.map fun n => [.text n.text])),
      .lastComma 0, .text "\x7d"]]

/-! ### Whole items -/

/-- The traits that markers of endpoints have. -/
def markerTraits : String := "#[derive(Debug, Clone, Copy, Default, PartialEq, Eq)]"

/-- How an item stands in a module. -/
def layout : Item → List Layout
  | .imports path names =>
    .text ("use " ++ path ++ "::") :: importNames names ++ [.text ";", .line]
  | .submodule name => textLines ["pub mod " ++ name.text ++ ";"]
  | .bindings doc name constants =>
    itemDoc doc ++ block [.text ("pub mod " ++ name.text ++ " \x7b")]
      (constants.map fun c => itemDoc c.doc ++ [.text (constantText c)])
  | .constant c => itemDoc c.doc ++ textLines [constantText c]
  | .errorType name message =>
    textLines ["#[derive(Debug, Clone, Copy, Default, PartialEq, Eq, thiserror::Error)]"] ++ [
      .text "#[error(",
      .box .consistent Layout.indentation
        [.zero, string message, .gap ⟨0, -Layout.indentation, false⟩],
      .text ")]", .line] ++
    textLines ["pub struct " ++ name.text ++ ";"]
  | .marker doc name =>
    itemDoc doc ++ textLines [markerTraits, "pub struct " ++ name.text ++ ";"]
  | .endpoint name key schema output errors =>
    block (implHead "Endpoint" name) (endpointParts key schema ++ [
      [.text ("type Output = " ++ outputType output ++ ";")],
      [.text ("type Error = " ++ errors.text ++ ";")]])
  | .streamEndpoint name key schema item =>
    block (implHead "StreamEndpoint" name) (endpointParts key schema ++ [
      [.text ("type Item = " ++ outputType item ++ ";")]])
  | .union owner name errors invalid =>
    itemDoc (" Errors of [`" ++ owner.text ++ "`].") ++
      textLines ["#[derive(Debug, thiserror::Error)]"] ++
      block [.text ("pub enum " ++ name.text ++ " \x7b")]
        (errors.map (fun e => unionVariant e [.text e.text]) ++
          [unionVariant invalid (failureType owner)])
  | .keyList doc name keys =>
    itemDoc doc ++ .text ("pub const " ++ name.text ++ ": &[&str] = ") :: stringSlice keys ++
      [.text ";", .line]
  | .builder doc name plan =>
    itemDoc doc ++ block [
        .text ("fn " ++ name.text ++ "("),
        .box .consistent 0 [.zero, .text "input: &Value", .text ",", .space,
          .text "context: &RequestContext", .lastComma 0],
        .text ") -> Result<HttpRequest, InputError> \x7b"] [
      [.text "const PLAN: RequestPlan = RequestPlan \x7b", recordFields (planFields plan),
        .text "\x7d;"],
      [.text "build_request(&PLAN, input, context)"]]
  | .rows doc name entries =>
    itemDoc doc ++ .text ("pub static " ++ name.text ++ ": &[Dispatch] = &") ::
      Layout.bracketed "[" "]" (entries.map rowLayout) ++ [.text ";", .line]
  | .lookup doc name table =>
    itemDoc doc ++
      block [.text ("pub fn " ++ name.text ++ "(key: &str) -> Option<&'static Dispatch> \x7b")]
        [[.text (table.text ++ ".iter().find(|entry| entry.key == key)")]]

end Item

/-! ### Modules -/

/-- A generated module. -/
structure Module where
  docs : List String
  items : List Item

/-- The first line of every generated file. -/
def notice : String :=
  "// This code was automatically generated by apiscribe-gen. Do not edit manually."

/-- The text of a file: the notice, an empty line and the code. -/
def withNotice (code : String) : String := notice ++ "\n\n" ++ code

/-- The text of a module. -/
def Module.text (m : Module) : String :=
  withNotice (Layout.render (m.docs.flatMap moduleDoc ++ m.items.flatMap Item.layout))

end ApiContract.Client
