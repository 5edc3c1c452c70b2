import QueryGateway.Failure.Encoding
import QueryGateway.Http.AcceptEncoding
import QueryGateway.Invocation.Deployment
import QueryGateway.Invocation.Event
import QueryGateway.Invocation.FailureResponse

/-!
# Running an invocation

One invocation, from an event to a response, in three steps.

* `prepare`: the event and the query are read, the user is found, the context is built, the execution
  is dispatched and the context is started. A failure ends the invocation.
* `perform`: the adapter waits for the execution. Callbacks that were added to it before run before
  the adapter goes on, those added later run after the invocation.
* `answer` and `close`: the result becomes a response, or the failure does; an execution that was left
  behind is asked to end, and the cache is emptied on every way out.

From its dispatch on an execution is in the hands of the loop. It takes its step (`takeStep`) in the
next turn, be it that the adapter waits for it or that the invocation has returned
(`Visit.settled`); only if it was asked to end by then it ends without having begun.

Everything an invocation does that another party can see goes into a trace, in order: the questions
to collaborators and the records. `course` is all of it up to the point where the outcome is known,
`handle` adds the end. A cancellation is no error: it passes through all steps but `close`
and ends the invocation without a response.
-/

namespace QueryGateway.Invocation

open Execution (Context Loop Outcome)

inductive Switch where
  | failureCause
  | accessLog
  | compression
deriving DecidableEq, Repr

/-- What an invocation does that others can see. -/
inductive Deed where
  | record (r : Log.Record)
  | consulting (s : Switch)
  | asked (authorization : Option Text)
  | building (user : User) (query : Query)
  | dispatching (query : Query)
  | given (context : InvocationContext)
  | starting (execution : Text)
  | hooking (execution : Text)
  | awaiting (execution : Text)
  | running (execution : Text)

/-- Who waits for an execution: the adapter, or a callback. -/
inductive Subscriber where
  | adapter
  | callback (effect : CacheEffect)

def theExecution : Text := "execution"

structure Built where
  user : User
  query : Query
  context : Context Subscriber
  /-- Whether the execution had ended when the hook ran, if it ran. -/
  doneAtStart : Option Bool

/-- An invocation under way. -/
structure Run where
  caches : Caches
  trace : List Deed
  correlationId : Value
  showCause : Bool
  built : Option Built
  dispatched : Bool
  /-- The execution that takes its step in the next turn of the loop, whoever waits for it. -/
  due : Option PendingExecution
  /-- Whether it was asked to end before. -/
  cancelling : Bool
  loop : Loop Result Subscriber

/-- A stage of an invocation: it may fail, and what it did until then stays done. -/
abbrev Stage := ExceptT Failure (StateM Run)

namespace Run

def initial (caches : Caches) (correlationId : Value) : Run :=
  ⟨caches, [], correlationId, false, none, false, none, false, .idle⟩

def add (r : Run) (deed : Deed) : Run := { r with trace := r.trace ++ [deed] }

def addRecords (r : Run) (records : List Log.Record) : Run :=
  { r with trace := r.trace ++ records.map Deed.record }

end Run

def logger : Text := "src.handlers.graphql_handler"

/-! ## Stages -/

def failWith {α : Type} (f : Failure) : Stage α := ExceptT.mk (pure (.error f))

def ofExcept {α : Type} : Except Failure α → Stage α
  | .ok a => pure a
  | .error f => failWith f

def log (level : Log.Level) (message : Text) (context : Members) : Stage Unit :=
  modify fun r => r.add (.record (.of level logger message r.correlationId context none))

def malformedEvent (r : Form.Rejection) : Failure :=
  (Failure.own .malformedRequest "Invalid proxy event"
    [("error_count", .int r.complaints.length)]).causedBy (.rejected r)

def readEvent (arrival : Arrival) : Stage Event :=
  match arrival.read with
  | .ok e => pure e
  | .error r => failWith (malformedEvent r)

def undecodable (cause : Failure) : Failure :=
  (Failure.own .malformedRequest "Request body is not valid base64 UTF-8" []).causedBy cause

/-- A failure of decoding, the message of which is not kept. -/
def silentFailure (qualifier name : Text) : Failure := .of (.foreign (.silent qualifier name) [] {})

/-- The text that a body in base64 stands for. A body beyond ASCII is not even looked at as base64. -/
def decodeBase64 (body : Text) : Except Failure Text :=
  match body.unfitRun? CodePoint.isAscii 0 with
  | some (position, c, length) =>
    .error ((Failure.plain "ValueError" "string argument should contain only ASCII characters").during
      (.unencodable "ascii" "ordinal not in range(128)" position c length))
  | none =>
    match Base64.decode? Base64.standard body with
    | none => .error (undecodable (silentFailure "binascii." "Error"))
    | some bytes =>
      match Utf8.decode? bytes with
      | none => .error (undecodable (silentFailure "" "UnicodeDecodeError"))
      | some t => .ok t

def decodeBody (e : Event) : Except Failure (Option Text) :=
  match e.isBase64, e.body with
  | true, some body => (decodeBase64 body).map some
  | _, body => .ok body

/-- A failure of a collaborator as a failure of its stage. The gateway's own failures and
cancellations stay what they are. -/
def attributed (cls : OwnClass) (f : Failure) : Failure :=
  if f.isOwn || f.isCancellation then f
  else (Failure.standard cls [("exception_type", .text f.className)]).causedBy f

def authenticate (d : Deployment) (authorization : Option Text) : Stage User := do
  modify fun r => r.add (.asked authorization)
  let (outcome, caches, records) := d.validate authorization (← get).caches
  modify fun r => { r with caches := caches }.addRecords records
  match outcome with
  | .ok user => pure user
  | .error f => failWith (attributed .validationInfrastructure f)

def operationShown (q : Query) : Text := q.operationName.getD "None"

def operationField (q : Query) : Value :=
  match q.operationName with
  | some t => .text t
  | none => .null

def consult (s : Switch) (answer : Except Failure Bool) : Stage Bool := do
  modify fun r => r.add (.consulting s)
  ofExcept answer

def logAccess (d : Deployment) (q : Query) (user : User) : Stage Unit := do
  if ← consult .accessLog d.enableAccessLog then
    let shown ← ofExcept (d.userText user)
    log Log.info (("Executing query " : Text) ++ operationShown q ++ ", for user " ++ shown)
      [("operation_name", operationField q), ("user", .text shown)]

def asSubscribers (c : InvocationContext) : Context Subscriber :=
  { c with pending := c.pending.map .callback }

def build (d : Deployment) (q : Query) (user : User) : Stage InvocationContext := do
  modify fun r => r.add (.building user q)
  let (outcome, caches) := d.buildContext user q (← get).caches
  modify fun r => { r with caches := caches }
  let c ← ofExcept outcome
  modify fun r => { r with built := some ⟨user, q, asSubscribers c, none⟩ }
  pure c

def dispatch (d : Deployment) (q : Query) (user : User) (c : InvocationContext) :
    Stage PendingExecution := do
  modify fun r => (r.add (.dispatching q)).add (.given c)
  let (outcome, caches) := d.dispatch user q c (← get).caches
  modify fun r => { r with caches := caches }
  let e ← ofExcept outcome
  modify fun r => { r with dispatched := true, due := some e }
  pure e

/-- The hook of a context, with its callbacks as subscribers. It runs only if the context can be
started, and then it may change the caches. -/
def runHook (d : Deployment) (b : Built) (caches : Caches) : Context.Hook Subscriber × Caches :=
  if b.context.isStarted then (⟨[], .ok ()⟩, caches)
  else
    let (h, caches) := d.hook b.user b.query caches
    (⟨h.adds.map .callback, h.outcome⟩, caches)

def start (d : Deployment) : Stage Unit := do
  modify fun r => r.add (.starting theExecution)
  let r ← get
  match r.built with
  | none => pure ()
  | some b =>
    let r := if b.context.isStarted then r else r.add (.hooking theExecution)
    let (hook, caches) := runHook d b r.caches
    let doneAtStart := if b.context.isStarted then none else some (r.loop.isDone theExecution)
    let (outcome, context, loop) := b.context.start r.loop theExecution hook
    set { r with caches, loop, built := some { b with context, doneAtStart } }
    ofExcept outcome

structure Prepared where
  event : Event
  query : Query
  execution : PendingExecution

def prepare (d : Deployment) (arrival : Arrival) : Stage Prepared := do
  let showCause ← consult .failureCause d.showFailureCause
  modify fun r => { r with showCause := showCause }
  let event ← readEvent arrival
  modify fun r =>
    { r with correlationId := if event.requestId.isTruthy then event.requestId else r.correlationId }
  let query ← ofExcept (decodeBody event >>= Query.parse)
  let user ← authenticate d (event.headers.get? Http.authorization)
  logAccess d query user
  let context ← build d query user
  let execution ← dispatch d query user context
  start d
  pure ⟨event, query, execution⟩

/-! ## The execution -/

def outcomeOf (outcome : Except Failure Result) : Outcome Result :=
  match outcome with
  | .ok r => .finished r
  | .error f => if f.isCancellation then .cancelled else .failed f

/-- The effects of callbacks up to the adapter's turn, and those after it. -/
def splitAtAdapter : List (Subscriber × Text) → List CacheEffect × List CacheEffect
  | [] => ([], [])
  | (.adapter, _) :: rest =>
    ([], rest.filterMap fun
      | (.callback effect, _) => some effect
      | _ => none)
  | (.callback effect, _) :: rest =>
    let (before, after) := splitAtAdapter rest
    (effect :: before, after)

def applyAll (effects : List CacheEffect) (caches : Caches) : Caches :=
  effects.foldl (fun cs effect => effect cs) caches

/-- The execution takes its step. If it was asked to end it does so before it begins; else it runs
to its end, and callbacks that it adds meanwhile wait for that like any other. -/
def takeStep (e : PendingExecution) (r : Run) : Except Failure Result × Run :=
  if r.cancelling then
    (.error .cancellation,
      { r with due := none, loop := (r.loop.complete? theExecution .cancelled).getD r.loop })
  else
    let (outcome, caches, added) := e.run r.caches
    let loop := r.loop.subscribeAll theExecution (added.map .callback)
    let loop := (loop.complete? theExecution (outcomeOf outcome)).getD loop
    (outcome, { r.add (.running theExecution) with due := none, caches, loop })

def await (r : Run) : Run :=
  { r.add (.awaiting theExecution) with loop := r.loop.subscribe theExecution .adapter }

/-- The callbacks in front of the adapter run, then it goes on; those behind it are handed back. -/
def wake (r : Run) : List CacheEffect × Run :=
  let (queue, loop) := r.loop.turn
  let (before, after) := splitAtAdapter queue
  (after, { r with caches := applyAll before r.caches, loop })

/-- The adapter waits until the execution has ended, and goes on. -/
def perform (e : PendingExecution) (r : Run) : Except Failure Result × List CacheEffect × Run :=
  let (outcome, r) := takeStep e (await r)
  let (left, r) := wake r
  (outcome, left, r)

/-! ## The end -/

def respond (d : Deployment) (headers : Http.Headers) (body : Text) : Stage Response := do
  if (← consult .compression d.enableCompression) && Http.AcceptEncoding.acceptsGzip headers then
    pure (.compressed 200 body)
  else pure (.plain 200 body)

def answer (d : Deployment) (a : Prepared) (outcome : Except Failure Result) : Stage Response := do
  match outcome with
  | .error f => failWith (attributed .executionFailure f)
  | .ok result =>
    let body ← ofExcept (dumpDocument d.room (Value.object result.document))
    let response ← respond d a.event.headers body
    log Log.debug "Query executed"
      [("operation_name", operationField a.query), ("error_count", .int result.errorCount)]
    pure response

/-- How an invocation ends: with a response, or with a failure that nothing took for an error. -/
inductive Ending where
  | answered (r : Response)
  | escaped (f : Failure)
deriving Repr

def settleFailure (d : Deployment) (f : Failure) (r : Run) : Ending × Run :=
  if f.isCancellation then (.escaped f, r)
  else
    match unreadable? f with
    | some g => (.escaped g, r)
    | none =>
      let (response, record) := answerFailure (denialRoom d.room) f r.showCause r.correlationId
      let r := r.add (.record record)
      match response with
      | .ok response => (.answered response, r)
      | .error g => (.escaped g, r)

/-- The end of an invocation before anything is cleaned up. -/
def settle (d : Deployment) (outcome : Except Failure Response) (r : Run) : Ending × Run :=
  match outcome with
  | .ok response => (.answered response, r)
  | .error f => settleFailure d f r

/-- An execution that was left behind is asked to end. It has not ended yet when this is done. -/
def abandon (r : Run) : Run :=
  if r.dispatched && !r.loop.isDone theExecution then { r with cancelling := true } else r

def droppedRecord (d : Deployment) (r : Run) : Log.Record :=
  .of Log.warning logger "Execution context dropped before it was started" r.correlationId
    [("context_type", .text d.contextName)] none

def noteDropped (d : Deployment) (r : Run) : Run :=
  match r.built with
  | some b => if b.context.isStarted then r else r.add (.record (droppedRecord d r))
  | none => r

def evict (d : Deployment) (r : Run) : Run :=
  let (c, records) := (r.caches d.cache).evict
  { r with caches := r.caches.set d.cache c }.addRecords records

/-- What is left of an invocation: its end, how far it got, and the callbacks that run behind the
adapter in the same turn. -/
structure Visit where
  ending : Ending
  run : Run
  behind : List CacheEffect

namespace Visit

/-- The next turn of the loop: an execution that is due takes its step. -/
def stepped (v : Visit) : Run :=
  let r := { v.run with caches := applyAll v.behind v.run.caches }
  match r.due with
  | some e => (takeStep e r).2
  | none => r

/-- The callbacks that run when the invocation has returned: those behind the adapter, and those
that learn of the end of an execution that was left. -/
def left (v : Visit) : List CacheEffect := v.behind ++ (splitAtAdapter v.stepped.loop.queue).1

def settled (v : Visit) : Run := (wake v.stepped).2

def settledCaches (v : Visit) : Caches := v.settled.caches

def execution? (v : Visit) : Option (Outcome Result) := v.settled.loop.outcome? theExecution

end Visit

/-- The clean-up on every way out. -/
def close (d : Deployment) (outcome : Except Failure Response) (behind : List CacheEffect)
    (r : Run) : Visit :=
  let (ending, r) := settle d outcome r
  ⟨ending, evict d (noteDropped d (abandon r)), behind⟩

/-- The id of an invocation before its event is read: that of the environment, or a fresh one. -/
def initialId (requestId : Value) (fresh : Text) : Value :=
  if requestId.isTruthy then requestId else .text fresh

/-- How far an invocation gets: its outcome, the callbacks behind the adapter, and what it did. -/
structure Course where
  outcome : Except Failure Response
  behind : List CacheEffect
  run : Run

/-- An invocation up to its outcome. -/
def course (d : Deployment) (arrival : Arrival) (id : Value) (caches : Caches) : Course :=
  let (prepared, r) := (prepare d arrival).run (Run.initial caches id)
  match prepared with
  | .error f => ⟨.error f, [], r⟩
  | .ok a =>
    let (outcome, behind, r) := perform a.execution r
    let (response, r) := (answer d a outcome).run r
    ⟨response, behind, r⟩

/-- One invocation. `requestId` is the id that the environment gave it, `fresh` one that nobody
else has. -/
def handle (d : Deployment) (arrival : Arrival) (requestId : Value) (fresh : Text)
    (caches : Caches) : Visit :=
  let c := course d arrival (initialId requestId fresh) caches
  close d c.outcome c.behind c.run

end QueryGateway.Invocation
