import QueryGateway.Text.Case

/-!
# Header tables

Headers as a gateway passes them on: names in the case in which the client sent them, in order, each
name at most once. A header is found under its exact name first and otherwise under the first name
that has the same small letters.
-/

namespace QueryGateway.Http

abbrev Headers := List (Text × Text)

namespace Headers

def literal? (headers : Headers) (name : Text) : Option Text :=
  (headers.find? fun h => h.1 = name).map (·.2)

def folded? (headers : Headers) (name : Text) : Option Text :=
  (headers.find? fun h => h.1.lower = name.lower).map (·.2)

def get? (headers : Headers) (name : Text) : Option Text :=
  headers.literal? name <|> headers.folded? name

def put (headers : Headers) (name value : Text) : Headers :=
  match headers with
  | [] => [(name, value)]
  | (k, v) :: rest => if k = name then (k, value) :: rest else (k, v) :: put rest name value

def update (headers more : Headers) : Headers := more.foldl (fun hs h => put hs h.1 h.2) headers

end Headers

/-! ## The headers of a response -/

def authorization : Text := "Authorization"

def acceptEncoding : Text := "Accept-Encoding"

def standardHeaders : Headers :=
  [("Access-Control-Allow-Origin", "*"), ("Content-Type", "application/json; charset=utf-8")]

def responseHeaders (compressed : Bool) : Headers :=
  if compressed then standardHeaders.put "Content-Encoding" "gzip" else standardHeaders

end QueryGateway.Http
