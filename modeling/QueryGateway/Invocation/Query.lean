import QueryGateway.Form.Field
import QueryGateway.Json.Read
import QueryGateway.Json.Write
import QueryGateway.Failure.Basic
import QueryGateway.Text.Blank

/-!
# Query requests

The envelope of a query: its text, the operation to run if the text holds several, and values for its
variables. An envelope is read from the JSON of a body and written back as JSON.

The operation is known under two names; the wire form's name decides if it is there, even as null.
Variables that are null are none. Other members have no influence.
-/

namespace QueryGateway.Invocation

structure Query where
  text : Text
  operationName : Option Text
  bindings : Members
deriving Repr, BEq

namespace Query

def title : Text := "QueryRequest"

open Form in
def ofMembers (members : Members) : Except Rejection Query :=
  titled title <|
    (both (required members ["query"] Form.text)
      (both (optional members ["operationName", "operation_name"] none Form.optionalText)
        (optional members ["variables"] [] (Form.nullAsEmpty (Form.table Form.any))))).map
    fun (text, operationName, bindings) => ⟨text, operationName, bindings⟩

def ofJson (body : Text) : Except Form.Rejection Query :=
  if !body.isScalar then .error ⟨title, [⟨[], .textSurrogate⟩]⟩
  else
    match Json.read? Json.Dialect.body body with
    | none => .error ⟨title, [⟨[], .jsonInvalid⟩]⟩
    | some (.map members) => ofMembers (Form.named members)
    | some _ => .error ⟨title, [⟨[], .recordKind⟩]⟩

def members (q : Query) : Members :=
  [("query", .text q.text),
    ("operationName", match q.operationName with | some t => .text t | none => .null),
    ("variables", Value.object q.bindings)]

def toJson (q : Query) : Except Json.WriteFault Text :=
  Json.write Json.Style.envelope (Value.object q.members)

def emptyBody : Failure := .own .malformedRequest "Request body is empty" []

def reported (c : Form.Complaint) : Value :=
  Value.object [("field", .text (if c.dotted = [] then "body" else c.dotted)),
    ("type", .text c.fault.code)]

def malformed (r : Form.Rejection) : Failure :=
  (Failure.standard .malformedRequest
    [("validation_errors", .list (r.complaints.map reported))]).causedBy (.rejected r)

def parse (body : Option Text) : Except Failure Query :=
  match body with
  | none => .error emptyBody
  | some t =>
    if Text.isBlank t then .error emptyBody
    else
      match ofJson t with
      | .ok q => .ok q
      | .error r => .error (malformed r)

end Query

end QueryGateway.Invocation
