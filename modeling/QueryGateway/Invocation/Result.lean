import QueryGateway.Failure.Report
import QueryGateway.Json.Write

/-!
# Results and their documents

What the engine hands back: data, errors in the order in which they arose, and extensions. The
document of a result has its data, its errors if there are any, and its extensions if there are any.

An error may point at places of the query, which are counted in lines and columns from one, and at a
place of the data. Fields of an error that say nothing are left out.
-/

namespace QueryGateway.Invocation

structure Location where
  line : Nat
  column : Int
deriving DecidableEq, Repr

/-- The starts of the lines after the first, each with the position of the line end in front. A
carriage return with a line feed is one line end. -/
def lineStarts (position : Nat) : Text → List (Nat × Nat)
  | [] => []
  | c :: rest =>
    if c = '\r' then
      match rest with
      | d :: more =>
        if d = '\n' then (position, position + 2) :: lineStarts (position + 2) more
        else (position, position + 1) :: lineStarts (position + 1) (d :: more)
      | [] => [(position, position + 1)]
    else if c = '\n' then (position, position + 1) :: lineStarts (position + 1) rest
    else lineStarts (position + 1) rest

def Location.of (source : Text) (position : Nat) : Location :=
  let before := (lineStarts 0 source).takeWhile fun s => s.1 < position
  let start := ((before.getLast?).map (·.2)).getD 0
  ⟨before.length + 1, (position : Int) + 1 - start⟩

structure QueryError where
  message : Value
  locations : List Location
  path : List Value
  extensions : Value
deriving Repr

def unknownError : Text := "An unknown error occurred."

namespace QueryError

def ofMessage (message : Text) : QueryError := ⟨.text message, [], [], .null⟩

def locationMember (l : Location) : Value :=
  Value.object [("line", .int l.line), ("column", .int l.column)]

def memberIf (present : Bool) (name : Text) (v : Value) : Members :=
  if present then [(name, v)] else []

def members (e : QueryError) : Members :=
  memberIf true "message" (if e.message.isTruthy then e.message else .text unknownError) ++
    memberIf (!e.locations.isEmpty) "locations" (.list (e.locations.map locationMember)) ++
    memberIf (!e.path.isEmpty) "path" (.list e.path) ++
    memberIf e.extensions.isTruthy "extensions" e.extensions

/-- The extensions of an error: its own, or the table of extensions of the failure behind it. -/
def extensionsOf (own : Value) (origin : Option Failure) : Value :=
  match own, origin with
  | .null, some f =>
    match f.origin with
    | .foreign _ _ a =>
      match a.extensions with
      | some (.map members) => .map members
      | _ => .null
    | _ => .null
  | own, _ => own

end QueryError

structure Result where
  data : Value
  errors : Option (List QueryError)
  extensions : Value
deriving Repr

namespace Result

def errorValues (r : Result) : List Value :=
  (r.errors.getD []).map fun e => Value.object e.members

/-- Whether a result has extensions; an empty table is one. -/
def hasExtensions (r : Result) : Bool :=
  match r.extensions with
  | .null => false
  | _ => true

def document (r : Result) : Members :=
  QueryError.memberIf true "data" r.data ++
    QueryError.memberIf (!r.errorValues.isEmpty) "errors" (.list r.errorValues) ++
    QueryError.memberIf r.hasExtensions "extensions" r.extensions

def errorCount (r : Result) : Nat := (r.errors.getD []).length

end Result

/-- The failure of a document that cannot be written. One that is nested too deep is no fault of the
document, and stays what it is. -/
def dumpFailure (fault : Json.WriteFault) : Failure :=
  let cause := Failure.plain fault.className fault.message
  match fault with
  | .tooDeep _ => cause
  | _ => (Failure.standard .serializationFailure [("reason", .text fault.message)]).causedBy cause

/-- A document as the text of a response body, as far as there is room for it. -/
def dumpDocument (room : Json.Room) (document : Value) : Except Failure Text :=
  (Json.writeWithin Json.Style.response room document).mapError dumpFailure

end QueryGateway.Invocation
