import ApiContract.Spec.Basic

/-!
# Encodings of bodies

The content type of a body decides how its fields are encoded.
-/

namespace ApiContract.Client

/-- How the fields of a body are encoded. Fields of any other content type are passed on as they
are. -/
inductive Encoding where
  | json
  | form
  | multipart
  | raw (contentType : String)
  deriving DecidableEq, Repr

/-- A content type without its parameters, the blanks around it and the case of its letters. -/
def essence (contentType : String) : String :=
  Text.asciiLower
    (String.ofList (Text.trimBy Text.isBlank (contentType.toList.takeWhile (· ≠ ';'))))

namespace Encoding

/-- The content type of forms. -/
def formContentType : String := "application/x-www-form-urlencoded"

/-- The content type of bodies in several parts. -/
def multipartContentType : String := "multipart/form-data"

/-- The encoding of a content type; types with the suffix `+json` are JSON. -/
def ofContentType (contentType : String) : Encoding :=
  let kind := essence contentType
  if kind == jsonContentType then .json
  else if kind == formContentType then .form
  else if kind == multipartContentType then .multipart
  else if "+json".toList.isSuffixOf kind.toList then .json
  else .raw contentType

/-- The content type that is sent with a body. -/
def contentType : Encoding → String
  | .json => jsonContentType
  | .form => formContentType
  | .multipart => multipartContentType
  | .raw contentType => contentType

end Encoding

end ApiContract.Client
