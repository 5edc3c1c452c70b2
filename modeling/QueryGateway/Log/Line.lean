import QueryGateway.Json.Write
import QueryGateway.Log.Instant
import QueryGateway.Log.Record
import QueryGateway.Log.Template
import QueryGateway.Value.Key

/-!
# Log lines

A record becomes one line of JSON. The members are written in a fixed order: the time, level, logger
and message, the id of the invocation and the name of the function if there are any, then the fields
of the record, the report of its failure, and, at the level of debugging only, the place it was
written at. Each is put into the table of members under its name, so a field takes the place of an
earlier member of the same name, and the report and the place take that of a field.

What is NOT promised: a line. A record whose fields have no table form, hold themselves or have names
without a JSON form gives a failure instead.
-/

namespace QueryGateway.Log

/-- A record on its way to becoming a line: the message is still a template, and the fields are
whatever was attached. -/
structure Entry where
  time : Instant
  level : Level
  logger : Text
  template : Text
  args : List Value
  correlationId : Option Value
  functionName : Text
  context : Option Value
  failure : Option Failure
  file : Text
  line : Int
  function : Text
  ownLevelName : Option Text := none
  /-- The report of the failure, if it is longer than the failure alone makes it: places that the
  failure came through, for one. -/
  ownReport : Option Text := none

def Entry.levelName (e : Entry) : Text := e.ownLevelName.getD (Log.levelName e.level)

abbrev Table := List (Value × Value)

def Table.put (table : Table) (key : Key) (name v : Value) : Table :=
  match table with
  | [] => [(name, v)]
  | (k, w) :: rest =>
    match Key.ofValue k with
    | .ok k' => if k'.same key then (k, v) :: rest else (k, w) :: Table.put rest key name v
    | .error _ => (k, w) :: Table.put rest key name v

def Table.putText (table : Table) (name : Text) (v : Value) : Table :=
  table.put (.text name) (.text name) v

def Table.putAll (table : Table) : List (Value × Value) → Except Failure Table
  | [] => .ok table
  | (k, v) :: rest =>
    match Key.ofValue k with
    | .ok key => Table.putAll (table.put key k v) rest
    | .error kind => .error (.unhashable kind)

def itemsOf? : Value → Option (List Value)
  | .list items | .tuple items | .set items => some items
  | .text t => some (t.map fun c => .text [c])
  | .bytes b => some (b.map fun x => .int x.toNat)
  | .map members => some (members.map (·.1))
  | _ => none

/-- Items as pairs of a name and a value; `index` is the number of the first. -/
def pairsOf (index : Nat) : List Value → Except Failure (List (Value × Value))
  | [] => .ok []
  | item :: rest =>
    match itemsOf? item with
    | none =>
      .error (.plain "TypeError" (("cannot convert dictionary update sequence element #" : Text) ++
        Text.ofNat index ++ " to a sequence"))
    | some [k, v] => (pairsOf (index + 1) rest).map ((k, v) :: ·)
    | some items =>
      .error (.plain "ValueError" (("dictionary update sequence element #" : Text) ++
        Text.ofNat index ++ " has length " ++ Text.ofNat items.length ++ "; 2 is required"))

def fieldsOf : Value → Except Failure (List (Value × Value))
  | .map members => .ok members
  | v =>
    match itemsOf? v with
    | some items => pairsOf 0 items
    | none => .error (.plain "TypeError" (("'" : Text) ++ v.kindName ++ "' object is not iterable"))

def reportOf (f : Failure) : Text :=
  match f.report.reverse with
  | [] => []
  | c :: rest => if c = '\n' then rest.reverse else f.report

def Entry.report (e : Entry) (f : Failure) : Text := e.ownReport.getD (reportOf f)

def Entry.identity (e : Entry) (message : Text) : Table :=
  [(.text "timestamp", .text e.time.iso), (.text "level", .text e.levelName),
    (.text "logger", .text e.logger), (.text "message", .text message)]

def Entry.base (e : Entry) (message : Text) : Table :=
  let table := e.identity message
  let table := match e.correlationId with
    | some id => table.putText "correlation_id" id
    | none => table
  if e.functionName = [] then table else table.putText "function_name" (.text e.functionName)

def Entry.close (e : Entry) (table : Table) : Table :=
  let table := match e.failure with
    | some f => table.putText "exception" (.text (e.report f))
    | none => table
  if e.level = debug then
    ((table.putText "file" (.text e.file)).putText "line" (.int e.line)).putText "function"
      (.text e.function)
  else table

def Entry.table (e : Entry) : Except Failure Table := do
  let message ← Template.render e.template e.args
  let base := e.base message
  let table ← match e.context with
    | none => .ok base
    | some context => base.putAll (← fieldsOf context)
  .ok (e.close table)

def writeFailure (fault : Json.WriteFault) : Failure :=
  .plain fault.className fault.message

def Entry.write (e : Entry) : Except Failure Text := do
  match Json.write Json.Style.record (.map (← e.table)) with
  | .ok line => .ok line
  | .error fault => .error (writeFailure fault)

/-- A record of the gateway as an entry. The place it was written at is not kept. -/
def Record.entry (r : Record) (time : Instant) : Entry where
  time := time
  level := r.level
  logger := r.logger
  template := r.message
  args := []
  correlationId := r.correlationId
  functionName := []
  context := some (Value.object r.context)
  failure := r.failure
  file := []
  line := 0
  function := []

end QueryGateway.Log
