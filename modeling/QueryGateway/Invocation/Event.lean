import QueryGateway.Form.Field
import QueryGateway.Http.Header

/-!
# Proxy events

An invocation arrives as an event: a body, perhaps in base64, headers, and what the gateway in front
knows about the request. Everything else in it is ignored. An event that is nothing (null, false,
zero or empty) counts as an event without any members; an event that is something else than a table
is rejected as a whole.
-/

namespace QueryGateway.Invocation

structure Event where
  body : Option Text
  headers : Http.Headers
  isBase64 : Bool
  requestContext : Members
deriving Repr

namespace Event

def title : Text := "ProxyRequestEvent"

open Form in
def ofMembers (members : Members) : Except Rejection Event :=
  titled title <|
    (both (optional members ["body"] none Form.optionalText)
      (both (optional members ["headers"] [] (Form.nullAsEmpty (Form.table Form.text)))
        (both (optional members ["isBase64Encoded", "is_base64_encoded"] false Form.bool)
          (optional members ["requestContext", "request_context"] []
            (Form.nullAsEmpty (Form.table Form.any)))))).map
    fun (body, headers, isBase64, requestContext) => ⟨body, headers, isBase64, requestContext⟩

def ofValue (v : Value) : Except Form.Rejection Event :=
  if v.isTruthy then
    match v with
    | .map members => ofMembers (Form.named members)
    | .endless true => ofMembers []
    | _ => .error ⟨title, [⟨[], .recordKind⟩]⟩
  else ofMembers []

def requestId (e : Event) : Value := (e.requestContext.get? "requestId").getD .null

end Event

/-- What an adapter is invoked with: a value that is still to be read, or an event. -/
inductive Arrival where
  | value (v : Value)
  | event (e : Event)
deriving Repr

def Arrival.read : Arrival → Except Form.Rejection Event
  | .value v => Event.ofValue v
  | .event e => .ok e

end QueryGateway.Invocation
