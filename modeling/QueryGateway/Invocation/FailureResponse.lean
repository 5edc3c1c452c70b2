import QueryGateway.Invocation.Response
import QueryGateway.Invocation.Result
import QueryGateway.Log.Record

/-!
# What a failure answers

A failure becomes a response and a record. A denial is part of the query's own rules, so it is
answered with status 200 and an error of the query, and never with more than its message and code.
Every other failure is answered with status 500, and with its report only if that was asked for.

Only the kind of the outermost failure decides. A failure of another class may claim to be a denial;
if it then lacks the message or the code of one, answering it fails in turn. So it does if the failure
cannot be read at all: its message cannot be had, or what it calls its kind has no value to be
recorded. Of such a failure there is no record.
-/

namespace QueryGateway.Invocation

def internalServerError : Text := "Internal Server Error"

def failureLogger : Text := "src.handlers.exception_handler"

def messageOf? (f : Failure) : Option Value :=
  match f.origin with
  | .own f => some (.text f.message)
  | .foreign _ _ a => a.message
  | .rejected _ => none

def codeOf? (f : Failure) : Option Value :=
  match f.origin with
  | .own f => some (.text f.code)
  | .foreign _ _ a => a.code
  | .rejected _ => none

def missingAttribute (className name : Text) : Failure :=
  .plain "AttributeError"
    (("'" : Text) ++ className ++ "' object has no attribute '" ++ name ++ "'")

/-- What reading a failure fails with, if it does. -/
def unreadable? (f : Failure) : Option Failure :=
  match f.muteness?, f.kind with
  | some g, _ => some g
  | none, .strange className none => some (missingAttribute className "value")
  | none, _ => none

def denialDocument (f : Failure) : Except Failure Value :=
  match messageOf? f, codeOf? f with
  | none, _ => .error (missingAttribute f.className "message")
  | some _, none => .error (missingAttribute f.className "error_code")
  | some message, some code =>
    let e : QueryError := ⟨message, [], [], Value.object [("code", code)]⟩
    .ok (Value.object [("errors", .list [Value.object e.members])])

def denialResponse (room : Json.Room) (f : Failure) : Except Failure Response := do
  let body ← dumpDocument room (← denialDocument f)
  pure (.plain 200 body)

def denialRecord (f : Failure) (correlationId : Value) : Log.Record :=
  .of Log.warning failureLogger "Access denied" correlationId
    [("error_code", (codeOf? f).getD .null), ("reason", (messageOf? f).getD (.text f.message))] none

def breakdownResponse (f : Failure) (showCause : Bool) : Response :=
  .plain 500 (if showCause then f.report else internalServerError)

def breakdownRecord (f : Failure) (correlationId : Value) : Log.Record :=
  .of Log.error failureLogger
    (("Failed to invoke graph: " : Text) ++ f.className ++ ": " ++ f.message) correlationId
    [("error_kind", f.kind.value?.getD .null), ("exception_type", .text f.className)] (some f)

/-- The response to a failure that can be read, and the record of it. -/
def answerFailure (room : Json.Room) (f : Failure) (showCause : Bool) (correlationId : Value) :
    Except Failure Response × Log.Record :=
  if f.kind.isDenial then (denialResponse room f, denialRecord f correlationId)
  else (.ok (breakdownResponse f showCause), breakdownRecord f correlationId)

end QueryGateway.Invocation
