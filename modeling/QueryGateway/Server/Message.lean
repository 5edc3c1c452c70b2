import QueryGateway.Failure.Encoding
import QueryGateway.Invocation.Event
import QueryGateway.Invocation.Response
import QueryGateway.Log.Line

/-!
# Requests and replies

What a client of the local server sends and gets. A request becomes the event that a gateway would
have made of it: the body as text, the first value of every header, and the id that the client gave
the request. A response of an adapter becomes a reply with the bytes that its body stands for.
-/

namespace QueryGateway.Server

open Http (Headers)
open Invocation (Event Response)

/-- A request, with its headers as they were sent. -/
structure Request where
  method : Text
  path : Text
  headers : List (Text × Text)
  body : Bytes
deriving Repr

def requestIdHeader : Text := "x-request-id"

def hostHeader : Text := "host"

/-- Headers as a table of names in small letters; of several values the first counts. -/
def table (sent : List (Text × Text)) : Headers :=
  sent.foldl
    (fun (hs : Headers) h =>
      if (hs.literal? h.1.lower).isSome then hs else hs ++ [(h.1.lower, h.2)])
    []

def Request.event (r : Request) : Event where
  body := some (Utf8.decodeLossy r.body)
  headers := table r.headers
  isBase64 := false
  requestContext :=
    [("requestId", match (table r.headers).literal? requestIdHeader with
      | some id => .text id
      | none => .null)]

/-! ## Locations -/

def isPlain (c : CodePoint) : Bool :=
  c.isAsciiLetter || c.isAsciiDigit || ("-._~:/%#?=@[]!$&'()*+,;" : Text).contains c

/-- A byte in a location: a mark and two digits, unless it is a character that stands for itself. -/
def locationByte (b : UInt8) : Text :=
  let c := CodePoint.ofNat b.toNat
  if isPlain c then [c] else '%' :: (Text.hex 2 b.toNat).upper

/-- Where a path is found: on the server that the client named, if it named one. -/
def Request.location (r : Request) (path : Text) : Text :=
  let address : Text := match (table r.headers).literal? hostHeader with
    | some host => ("http://" : Text) ++ host ++ path
    | none => path
  (Utf8.encode address).flatMap locationByte

/-! ## Replies -/

/-- A reply, with names of headers in small letters. -/
structure Reply where
  status : Int
  headers : Headers
  body : Bytes
deriving Repr

namespace Reply

def withLength (status : Int) (headers : Headers) (body : Bytes) : Reply :=
  ⟨status, headers.put "content-length" (Text.ofNat body.length), body⟩

/-- How the documents of the server are written: a surrogate is noticed only in the bytes. -/
def style : Json.Style := { Json.Style.envelope with inUtf8 := false }

def json (status : Int) (headers : Headers) (members : Members) : Except Failure Reply := do
  let document ← (Json.write style (Value.object members)).mapError Log.writeFailure
  let bytes ← Utf8.encodeStrictly document
  pure (withLength status (headers.put "content-type" "application/json") bytes)

def moved (location : Text) : Reply :=
  ⟨307, ("content-length", "0") :: [("location", location)], []⟩

/-- The bytes that the body of a response stands for; a body in base64 is written by this library and
can always be read. -/
def bytesOf (r : Response) : Except Failure Bytes :=
  if r.isBase64 then .ok ((Base64.decode? Base64.standard r.body).getD [])
  else Utf8.encodeStrictly r.body

def ofResponse (r : Response) : Except Failure Reply :=
  (bytesOf r).map (withLength r.status (r.headers.map fun h => (h.1.lower, h.2)))

end Reply

end QueryGateway.Server
