import ApiContract.Client.Item

/-!
# The support module of the client

The module that every other module of the client builds on. It does not depend on the
specification.
-/

namespace ApiContract.Client.Support

/-- The documentation, the imports and the characters of a path segment that stand for themselves.
-/
def headLines : List String := [
  "//! Runtime support shared by the generated endpoint registry and",
  "//! dispatch tables.",
  "use percent_encoding::\x7bAsciiSet, NON_ALPHANUMERIC, utf8_percent_encode\x7d;",
  "/// Everything except RFC 3986 unreserved characters is escaped in",
  "/// substituted path parameters.",
  "const PATH_SEGMENT: &AsciiSet = &NON_ALPHANUMERIC",
  "    .remove(b'-')",
  "    .remove(b'.')",
  "    .remove(b'_')",
  "    .remove(b'~');"]

/-- The two traits of endpoints. -/
def traitLines : List String := [
  "/// A standard request/response endpoint.",
  "pub trait Endpoint \x7b",
  "    /// Key shared with the dispatch table entry.",
  "    const KEY: &'static str;",
  "    /// Validation expression of the endpoint input.",
  "    const SCHEMA: &'static str;",
  "    /// Input object accepted by the endpoint.",
  "    type Input;",
  "    /// Decoded response type.",
  "    type Output;",
  "    /// Error union of the endpoint.",
  "    type Error: std::error::Error;",
  "\x7d",
  "/// A streaming endpoint.",
  "pub trait StreamEndpoint \x7b",
  "    /// Key shared with the stream dispatch table entry.",
  "    const KEY: &'static str;",
  "    /// Validation expression of the endpoint input.",
  "    const SCHEMA: &'static str;",
  "    /// Input object accepted by the endpoint.",
  "    type Input;",
  "    /// Type of each streamed item.",
  "    type Item;",
  "\x7d"]

/-- What all requests share. -/
def contextLines : List String := [
  "/// Per-call request context.",
  "#[derive(Debug, Clone, Default, PartialEq, Eq)]",
  "pub struct RequestContext \x7b",
  "    /// Base URL prepended to every path (e.g., \"https://api.example.com/v1\").",
  "    pub base_url: String,",
  "    /// Headers sent with every request, before endpoint headers.",
  "    pub headers: Vec<(String, String)>,",
  "\x7d",
  "impl RequestContext \x7b",
  "    /// Creates a context with no extra headers.",
  "    pub fn new(base_url: impl Into<String>) -> Self \x7b",
  "        Self \x7b",
  "            base_url: base_url.into(),",
  "            headers: Vec::new(),",
  "        \x7d",
  "    \x7d",
  "    /// Adds a header sent with every request.",
  "    pub fn with_header(",
  "        mut self,",
  "        name: impl Into<String>,",
  "        value: impl Into<String>,",
  "    ) -> Self \x7b",
  "        self.headers.push((name.into(), value.into()));",
  "        self",
  "    \x7d",
  "\x7d"]

/-- The encodings of bodies. -/
def encodingLines : List String := [
  "/// How body fields are encoded.",
  "#[derive(Debug, Clone, Copy, PartialEq, Eq)]",
  "pub enum BodyEncoding \x7b",
  "    /// `application/json`",
  "    Json,",
  "    /// `application/x-www-form-urlencoded`",
  "    Form,",
  "    /// `multipart/form-data`",
  "    Multipart,",
  "    /// Any other content type; fields are passed through unencoded.",
  "    Raw(&'static str),",
  "\x7d",
  "impl BodyEncoding \x7b",
  "    /// The content type sent with the body.",
  "    pub fn content_type(&self) -> &'static str \x7b",
  "        match self \x7b",
  "            Self::Json => \"application/json\",",
  "            Self::Form => \"application/x-www-form-urlencoded\",",
  "            Self::Multipart => \"multipart/form-data\",",
  "            Self::Raw(content_type) => *content_type,",
  "        \x7d",
  "    \x7d",
  "\x7d"]

/-- Requests, request plans and rows of the dispatch table. -/
def requestLines : List String := [
  "/// Encoded request body.",
  "#[derive(Debug, Clone, PartialEq)]",
  "pub enum RequestBody \x7b",
  "    Json(serde_json::Value),",
  "    Form(Vec<(String, String)>),",
  "    Multipart(Vec<(String, serde_json::Value)>),",
  "    Raw \x7b",
  "        content_type: &'static str,",
  "        fields: serde_json::Map<String, serde_json::Value>,",
  "    \x7d,",
  "\x7d",
  "/// Transport-level request produced by a dispatch entry.",
  "#[derive(Debug, Clone, PartialEq)]",
  "pub struct HttpRequest \x7b",
  "    pub method: &'static str,",
  "    pub url: String,",
  "    pub headers: Vec<(String, String)>,",
  "    pub query: Vec<(String, String)>,",
  "    pub body: Option<RequestBody>,",
  "\x7d",
  "/// Static description of how one endpoint builds its request.",
  "#[derive(Debug, Clone, Copy)]",
  "pub struct RequestPlan \x7b",
  "    pub method: &'static str,",
  "    /// Path template with `\x7bparam\x7d` placeholders.",
  "    pub path: &'static str,",
  "    pub headers: &'static [&'static str],",
  "    pub query: &'static [&'static str],",
  "    pub body: &'static [&'static str],",
  "    pub params: &'static [&'static str],",
  "    pub encoding: BodyEncoding,",
  "\x7d",
  "/// Function building the request of one endpoint.",
  "pub type BuildFn = fn(",
  "    &serde_json::Value,",
  "    &RequestContext,",
  ") -> Result<HttpRequest, InputError>;",
  "/// One row of a dispatch table.",
  "#[derive(Debug, Clone, Copy)]",
  "pub struct Dispatch \x7b",
  "    /// Key shared with the endpoint registry.",
  "    pub key: &'static str,",
  "    /// Validation expression of the input.",
  "    pub schema: &'static str,",
  "    pub build: BuildFn,",
  "\x7d"]

/-- Members that are present and their texts. -/
def valueLines : List String := [
  "fn present<'a>(",
  "    fields: &'a serde_json::Map<String, serde_json::Value>,",
  "    name: &str,",
  ") -> Option<&'a serde_json::Value> \x7b",
  "    fields.get(name).filter(|value| !value.is_null())",
  "\x7d",
  "fn scalar(",
  "    field: &str,",
  "    location: &'static str,",
  "    value: &serde_json::Value,",
  ") -> Result<String, InputError> \x7b",
  "    match value \x7b",
  "        serde_json::Value::String(text) => Ok(text.clone()),",
  "        serde_json::Value::Number(number) => Ok(number.to_string()),",
  "        serde_json::Value::Bool(flag) => Ok(flag.to_string()),",
  "        _ => \x7b",
  "            Err(InputError::Unsupported \x7b",
  "                field: field.to_string(),",
  "                location,",
  "            \x7d)",
  "        \x7d",
  "    \x7d",
  "\x7d"]

/-- The building of requests. -/
def buildLines : List String := [
  "/// Builds the transport request for `input` following `plan`.",
  "///",
  "/// Path parameters are percent-encoded and substituted, header and query",
  "/// fields are rendered as strings (query arrays repeat the key) and body",
  "/// fields are encoded with the plan's encoding. Fields outside the plan",
  "/// are ignored; `null` counts as absent.",
  "///",
  "/// ## Errors",
  "///",
  "/// Returns `InputError` when the input is not an object, a path parameter",
  "/// is missing, or a value cannot be sent in its location.",
  "pub fn build_request(",
  "    plan: &RequestPlan,",
  "    input: &serde_json::Value,",
  "    context: &RequestContext,",
  ") -> Result<HttpRequest, InputError> \x7b",
  "    let fields = input.as_object().ok_or(InputError::NotAnObject)?;",
  "    let mut path = plan.path.to_string();",
  "    for &name in plan.params \x7b",
  "        let value = present(fields, name).ok_or(InputError::MissingPathParam(name))?;",
  "        let segment = scalar(name, \"path\", value)?;",
  "        path = path",
  "            .replace(",
  "                &format!(\"\x7b\x7b\x7bname\x7d\x7d\x7d\"),",
  "                &utf8_percent_encode(&segment, PATH_SEGMENT).to_string(),",
  "            );",
  "    \x7d",
  "    let mut headers = context.headers.clone();",
  "    for &name in plan.headers \x7b",
  "        if let Some(value) = present(fields, name) \x7b",
  "            headers.push((name.to_string(), scalar(name, \"header\", value)?));",
  "        \x7d",
  "    \x7d",
  "    let mut query = Vec::new();",
  "    for &name in plan.query \x7b",
  "        match present(fields, name) \x7b",
  "            Some(serde_json::Value::Array(items)) => \x7b",
  "                for item in items \x7b",
  "                    query.push((name.to_string(), scalar(name, \"query\", item)?));",
  "                \x7d",
  "            \x7d",
  "            Some(value) => query.push((name.to_string(), scalar(name, \"query\", value)?)),",
  "            None => \x7b\x7d",
  "        \x7d",
  "    \x7d",
  "    let body = if plan.body.is_empty() \x7b",
  "        None",
  "    \x7d else \x7b",
  "        let values: serde_json::Map<String, serde_json::Value> = plan",
  "            .body",
  "            .iter()",
  "            .filter_map(|&name| \x7b",
  "                present(fields, name).map(|value| (name.to_string(), value.clone()))",
  "            \x7d)",
  "            .collect();",
  "        Some(",
  "            match plan.encoding \x7b",
  "                BodyEncoding::Json => \x7b",
  "                    RequestBody::Json(serde_json::Value::Object(values))",
  "                \x7d",
  "                BodyEncoding::Form => \x7b",
  "                    RequestBody::Form(",
  "                        values",
  "                            .iter()",
  "                            .map(|(name, value)| \x7b",
  "                                scalar(name, \"form body\", value)",
  "                                    .map(|text| (name.clone(), text))",
  "                            \x7d)",
  "                            .collect::<Result<_, InputError>>()?,",
  "                    )",
  "                \x7d",
  "                BodyEncoding::Multipart => \x7b",
  "                    RequestBody::Multipart(values.into_iter().collect())",
  "                \x7d",
  "                BodyEncoding::Raw(content_type) => \x7b",
  "                    RequestBody::Raw \x7b",
  "                        content_type,",
  "                        fields: values,",
  "                    \x7d",
  "                \x7d",
  "            \x7d,",
  "        )",
  "    \x7d;",
  "    Ok(HttpRequest \x7b",
  "        method: plan.method,",
  "        url: format!(\"\x7b\x7d\x7b\x7d\", context.base_url.trim_end_matches('/'), path),",
  "        headers,",
  "        query,",
  "        body,",
  "    \x7d)",
  "\x7d"]

/-- The errors of building. -/
def errorLines : List String := [
  "/// Errors raised while building a request from an input object.",
  "#[derive(Debug, Clone, PartialEq, Eq, thiserror::Error)]",
  "pub enum InputError \x7b",
  "    /// The input was not a JSON object.",
  "    #[error(\"request input must be a JSON object\")]",
  "    NotAnObject,",
  "    /// A path parameter had no value.",
  "    #[error(\"missing path parameter `\x7b0\x7d`\")]",
  "    MissingPathParam(&'static str),",
  "    /// A structured value was given where only scalars are allowed.",
  "    #[error(\"field `\x7bfield\x7d` cannot be sent in the \x7blocation\x7d\")]",
  "    Unsupported \x7b field: String, location: &'static str \x7d,",
  "\x7d"]

/-- Failed validation. -/
def failureLines : List String := [
  "/// An input of type `I` failed validation.",
  "pub struct ParseFailure<I> \x7b",
  "    /// Validator diagnostics.",
  "    pub message: String,",
  "    input: std::marker::PhantomData<fn() -> I>,",
  "\x7d",
  "impl<I> ParseFailure<I> \x7b",
  "    pub fn new(message: impl Into<String>) -> Self \x7b",
  "        Self \x7b",
  "            message: message.into(),",
  "            input: std::marker::PhantomData,",
  "        \x7d",
  "    \x7d",
  "\x7d",
  "impl<I> std::fmt::Debug for ParseFailure<I> \x7b",
  "    fn fmt(&self, f: &mut std::fmt::Formatter<'_>) -> std::fmt::Result \x7b",
  "        f.debug_struct(\"ParseFailure\")",
  "            .field(\"input\", &std::any::type_name::<I>())",
  "            .field(\"message\", &self.message)",
  "            .finish()",
  "    \x7d",
  "\x7d",
  "impl<I> std::fmt::Display for ParseFailure<I> \x7b",
  "    fn fmt(&self, f: &mut std::fmt::Formatter<'_>) -> std::fmt::Result \x7b",
  "        write!(f, \"invalid input: \x7b\x7d\", self.message)",
  "    \x7d",
  "\x7d",
  "impl<I> std::error::Error for ParseFailure<I> \x7b\x7d"]

/-- The lines of the module. -/
def lines : List String :=
  headLines ++ traitLines ++ contextLines ++ encodingLines ++ requestLines ++ valueLines ++
    buildLines ++ errorLines ++ failureLines

/-- The text of the module. -/
def text : String := withNotice (String.join (lines.map (· ++ "\n")))

end ApiContract.Client.Support
