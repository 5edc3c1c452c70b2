import QueryGateway.Form.Field
import QueryGateway.Http.Gzip
import QueryGateway.Http.Header

/-!
# Proxy responses

What an invocation answers: a status, headers, and a body, marked if it stands in base64. The body
is any text. Lone surrogates in it are not refused here but where the response is sent.
-/

namespace QueryGateway.Invocation

structure Response where
  status : Int
  headers : Http.Headers
  body : Text
  isBase64 : Bool
deriving DecidableEq, Repr

namespace Response

def title : Text := "ProxyResponseEvent"

open Form in
def ofMembers (members : Members) : Except Rejection Response :=
  titled title <|
    (both (required members ["statusCode", "status_code"] Form.integer)
      (both (optional members ["headers"] [] (Form.table Form.text))
        (both (required members ["body"] Form.text)
          (optional members ["isBase64Encoded", "is_base64_encoded"] false Form.bool)))).map
    fun (status, headers, body, isBase64) => ⟨status, headers, body, isBase64⟩

def plain (status : Int) (body : Text) : Response :=
  ⟨status, Http.responseHeaders false, body, false⟩

def compressed (status : Int) (body : Text) : Response :=
  ⟨status, Http.responseHeaders true, Http.Gzip.encodeText body, true⟩

def members (r : Response) : Members :=
  [("statusCode", .int r.status),
    ("headers", Value.object (r.headers.map fun (k, v) => (k, .text v))),
    ("body", .text r.body), ("isBase64Encoded", .bool r.isBase64)]

/-- The text that the client sees: a body in base64 is a compressed one. -/
def content (r : Response) : Option Text :=
  if r.isBase64 then Http.Gzip.decodeText? r.body else some r.body

end Response

end QueryGateway.Invocation
