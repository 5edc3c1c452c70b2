import QueryGateway.Proofs.Except
import QueryGateway.Proofs.Invocation.Passage

/-!
# The outcome of an invocation as one expression

`verdict` is what an invocation comes to, written without a run: each collaborator is asked for its
answer, the caches are handed from one to the next, and the first failure is the outcome. It leaves
out what nobody needs to know the outcome: the trace, the loop and the callbacks.

`course_outcome` says that this is the outcome, and `handle_ending` that the ending of an invocation
is the verdict, settled with the detail switch. So an ending is a function of the collaborators'
answers, and two invocations end alike as soon as their verdicts are equal.
-/

namespace QueryGateway.Invocation

open Execution (Context)

variable {d : Deployment} {arrival : Arrival} {caches : Caches}

/-! ## The verdict -/

/-- The start of a context: it fails if it is not the first, and else as its hook does. -/
def startOutcome (c : InvocationContext) (hook : Except Failure Unit) : Except Failure Unit :=
  match c.stage with
  | .started => .error c.alreadyStarted
  | .created => hook

variable (d arrival caches) in
/-- What an invocation comes to. -/
def verdict : Except Failure Response := do
  let _ ← d.showFailureCause
  let event ← arrival.read.mapError malformedEvent
  let query ← decodeBody event >>= Query.parse
  let validation := d.validate (credentials event) caches
  let user ← validation.1.mapError (attributed .validationInfrastructure)
  let _ ← accessText d user
  let building := d.buildContext user query validation.2.1
  let context ← building.1
  let dispatching := d.dispatch user query context building.2
  let execution ← dispatching.1
  let starting := d.hook user query dispatching.2
  startOutcome context starting.1.outcome
  let result ← (execution.run starting.2).1.mapError (attributed .executionFailure)
  let body ← dumpDocument d.room (Value.object result.document)
  d.enableCompression.map (responseTo event.headers body)

/-! ## The verdict at the milestones

A milestone holds the answers of the collaborators so far, so the verdict is what the rest comes
to. -/

theorem Understood.verdict_eq (m : Understood d arrival) (caches : Caches) :
    verdict d arrival caches = (do
      let validation := d.validate (credentials m.event) caches
      let user ← validation.1.mapError (attributed .validationInfrastructure)
      let _ ← accessText d user
      let building := d.buildContext user m.query validation.2.1
      let context ← building.1
      let dispatching := d.dispatch user m.query context building.2
      let execution ← dispatching.1
      let starting := d.hook user m.query dispatching.2
      startOutcome context starting.1.outcome
      let result ← (execution.run starting.2).1.mapError (attributed .executionFailure)
      let body ← dumpDocument d.room (Value.object result.document)
      d.enableCompression.map (responseTo m.event.headers body)) := by
  unfold verdict
  rw [m.opened, Except.ok_bind, m.addressed]
  show (decodeBody m.event >>= Query.parse >>= _) = _
  rw [m.understood, Except.ok_bind]

theorem Dispatched.verdict_eq (m : Dispatched d arrival caches) :
    verdict d arrival caches = (do
      startOutcome m.context m.hook.1.outcome
      let result ← (m.execution.run m.hook.2).1.mapError (attributed .executionFailure)
      let body ← dumpDocument d.room (Value.object result.document)
      d.enableCompression.map (responseTo m.event.headers body)) := by
  rw [m.toUnderstood.verdict_eq]
  simp only [m.admitted, Except.mapError_ok, Except.ok_bind, m.noted, m.equipped, m.dispatched]

theorem Started.verdict_eq (m : Started d arrival caches) :
    verdict d arrival caches = (do
      let result ← (m.execution.run m.hook.2).1.mapError (attributed .executionFailure)
      let body ← dumpDocument d.room (Value.object result.document)
      d.enableCompression.map (responseTo m.event.headers body)) := by
  have start : startOutcome m.context m.hook.1.outcome = .ok () := by
    rw [startOutcome, m.created]
    exact m.started
  rw [m.toDispatched.verdict_eq, start, Except.ok_bind]

theorem Performed.verdict_eq (m : Performed d arrival caches) :
    verdict d arrival caches = (do
      let body ← dumpDocument d.room (Value.object m.result.document)
      d.enableCompression.map (responseTo m.event.headers body)) := by
  rw [m.toStarted.verdict_eq, m.performed]
  rfl

theorem Written.verdict_eq (m : Written d arrival caches) :
    verdict d arrival caches = m.response := by
  rw [m.toPerformed.verdict_eq, m.written, Except.ok_bind, response]

/-! ## The outcome and the ending -/

theorem Passage.outcome_eq {id : Value} {c : Course} (p : Passage d arrival caches id c) :
    c.outcome = verdict d arrival caches := by
  cases p with
  | unopened f h => rw [verdict, h, Except.error_bind]
  | rejected m x h =>
      rw [verdict, m.opened, Except.ok_bind, h]
      rfl
  | misunderstood m f h =>
      unfold verdict
      rw [m.opened, Except.ok_bind, m.addressed]
      show _ = (decodeBody m.event >>= Query.parse >>= _)
      rw [h, Except.error_bind]
  | refused m f h =>
      simp only [m.verdict_eq, h, Except.mapError_error, Except.error_bind]
  | unnoted m f h =>
      simp only [m.verdict_eq, m.admitted, Except.mapError_ok, Except.ok_bind, h, Except.error_bind]
  | unequipped m f h =>
      simp only [m.verdict_eq, m.admitted, Except.mapError_ok, Except.ok_bind, m.noted, h,
        Except.error_bind]
  | undispatched m f h =>
      simp only [m.verdict_eq, m.admitted, Except.mapError_ok, Except.ok_bind, m.noted, m.equipped,
        h, Except.error_bind]
  | startedBefore m h => rw [m.verdict_eq, startOutcome, h, Except.error_bind]
  | unstarted m f created h => rw [m.verdict_eq, startOutcome, created, h, Except.error_bind]
  | unperformed m f h =>
      rw [m.verdict_eq, h]
      rfl
  | unwritten m f h => rw [m.verdict_eq, h, Except.error_bind]
  | unanswered m f h => rw [m.verdict_eq, h]
  | answered m response h => rw [m.verdict_eq, h]

theorem course_outcome (id : Value) :
    (course d arrival id caches).outcome = verdict d arrival caches :=
  (course_passage d arrival caches id).outcome_eq

/-- Whether failures are shown: only if the deployment said so. -/
def Deployment.shows (d : Deployment) : Bool :=
  match d.showFailureCause with
  | .ok showCause => showCause
  | .error _ => false

theorem Opened.shows_eq (m : Opened d) : d.shows = m.showCause := by
  rw [Deployment.shows, m.opened]

theorem Passage.showCause_eq {id : Value} {c : Course} (p : Passage d arrival caches id c) :
    c.run.showCause = d.shows := by
  cases p with
  | unopened f h =>
      rw [Deployment.shows, h]
      rfl
  | rejected m | misunderstood m | refused m | unnoted m | unequipped m | undispatched m
  | startedBefore m | unstarted m | unperformed m | unwritten m | unanswered m | answered m =>
      rw [m.shows_eq]
      rfl

/-- The response to a failure, if it can be made. -/
def failureResponse (room : Json.Room) (f : Failure) (showCause : Bool) :
    Except Failure Response :=
  if f.kind.isDenial then denialResponse room f else .ok (breakdownResponse f showCause)

/-- The record of a failure. -/
def failureRecord (f : Failure) (id : Value) : Log.Record :=
  if f.kind.isDenial then denialRecord f id else breakdownRecord f id

theorem answerFailure_eq (room : Json.Room) (f : Failure) (showCause : Bool) (id : Value) :
    answerFailure room f showCause id =
      (failureResponse room f showCause, failureRecord f id) := by
  rw [answerFailure, failureResponse, failureRecord]
  split <;> rfl

/-- How an invocation ends with an outcome, given the room for the document of a denial and whether
failures are shown. -/
def conclude (room : Json.Room) (showCause : Bool) : Except Failure Response → Ending
  | .ok response => .answered response
  | .error f =>
    if f.isCancellation then .escaped f
    else
      match unreadable? f with
      | some g => .escaped g
      | none =>
        match failureResponse room f showCause with
        | .ok response => .answered response
        | .error g => .escaped g

/-- An invocation that answers a failure answers one that can be read and is no cancellation. -/
theorem conclude_answered {room : Json.Room} {showCause : Bool} {f : Failure} {response : Response}
    (h : conclude room showCause (.error f) = .answered response) :
    (f.isCancellation || (unreadable? f).isSome) = false ∧
      failureResponse room f showCause = .ok response := by
  rw [conclude] at h
  split at h
  · cases h
  · rename_i noCancellation
    cases unreadable : unreadable? f with
    | some g =>
        rw [unreadable] at h
        cases h
    | none =>
        rw [unreadable] at h
        cases made : failureResponse room f showCause with
        | error g =>
            rw [made] at h
            cases h
        | ok _ =>
            rw [made] at h
            cases h
            refine ⟨?_, rfl⟩
            rw [Bool.not_eq_true] at noCancellation
            rw [noCancellation]
            rfl

/-- The response of an ending, if it has one. -/
def Ending.response? : Ending → Option Response
  | .answered response => some response
  | .escaped _ => none

theorem Ending.response?_eq_some {e : Ending} {response : Response}
    (h : e.response? = some response) : e = .answered response := by
  cases e with
  | answered r =>
      cases h
      rfl
  | escaped f => cases h

theorem settle_ending (d : Deployment) (o : Except Failure Response) (r : Run) :
    (settle d o r).1 = conclude (denialRoom d.room) r.showCause o := by
  cases o with
  | ok response => rfl
  | error f =>
      rw [settle, settleFailure, conclude]
      split
      · rfl
      · cases unreadable? f with
        | some g => rfl
        | none =>
            simp only [answerFailure_eq]
            cases failureResponse (denialRoom d.room) f r.showCause <;> rfl

theorem close_ending (o : Except Failure Response) (behind : List CacheEffect) (r : Run) :
    (close d o behind r).ending = conclude (denialRoom d.room) r.showCause o :=
  settle_ending d o r

/-- The ending is the verdict, settled with the detail switch. -/
theorem handle_ending (requestId : Value) (fresh : Text) :
    (handle d arrival requestId fresh caches).ending =
      conclude (denialRoom d.room) d.shows (verdict d arrival caches) := by
  have p := course_passage d arrival caches (initialId requestId fresh)
  rw [handle, close_ending, p.showCause_eq, p.outcome_eq]

end QueryGateway.Invocation
