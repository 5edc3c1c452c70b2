import QueryGateway.Invocation.Adapter
import QueryGateway.Proofs.Except

/-!
# What each stage does to a run

A stage is a function on runs, so each stage has one equation: from a run, the outcome of the stage
and the run after it. The equations below are all that later modules know about the stages; nothing
after this module opens a `do` block.

The order of effects is in the equations. A collaborator is written into the trace before it is
asked, and what it did to the caches stays done when it fails.
-/

namespace QueryGateway.Invocation

open Execution (Context Loop)

variable {α β : Type}

/-! ## The stages that every monad has -/

theorem run_bind (x : Stage α) (f : α → Stage β) (r : Run) :
    (x >>= f).run r = match x.run r with
      | (.ok a, s) => (f a).run s
      | (.error e, s) => (.error e, s) := by
  show (ExceptT.bindCont f (x.run r).1) (x.run r).2 = _
  rcases x.run r with ⟨_ | _, _⟩ <;> rfl

theorem run_bind_ok {x : Stage α} {f : α → Stage β} {r s : Run} {a : α}
    (h : x.run r = (.ok a, s)) : (x >>= f).run r = (f a).run s := by
  rw [run_bind, h]

theorem run_bind_error {x : Stage α} {f : α → Stage β} {r s : Run} {e : Failure}
    (h : x.run r = (.error e, s)) : (x >>= f).run r = (.error e, s) := by
  rw [run_bind, h]

theorem run_pure (a : α) (r : Run) : (pure a : Stage α).run r = (.ok a, r) := rfl

theorem run_map (f : α → β) (x : Stage α) (r : Run) :
    (f <$> x).run r = ((x.run r).1.map f, (x.run r).2) := by
  rw [ExceptT.run_map]
  rfl

theorem run_failWith (f : Failure) (r : Run) : (failWith f : Stage α).run r = (.error f, r) := rfl

theorem run_ofExcept (o : Except Failure α) (r : Run) : (ofExcept o).run r = (o, r) := by
  cases o <;> rfl

theorem run_modify (g : Run → Run) (r : Run) :
    (modify g : Stage PUnit).run r = (.ok ⟨⟩, g r) := rfl

theorem run_get (r : Run) : (get : Stage Run).run r = (.ok r, r) := rfl

theorem run_set (r s : Run) : (set s : Stage PUnit).run r = (.ok ⟨⟩, s) := rfl

/-! ## The stages before the execution -/

theorem run_log (level : Log.Level) (message : Text) (context : Members) (r : Run) :
    (log level message context).run r =
      (.ok (), r.add (.record (.of level logger message r.correlationId context none))) := rfl

theorem run_consult (s : Switch) (o : Except Failure Bool) (r : Run) :
    (consult s o).run r = (o, r.add (.consulting s)) := by
  simp only [consult, run_bind, run_modify, run_ofExcept]

theorem run_readEvent (a : Arrival) (r : Run) :
    (readEvent a).run r = (a.read.mapError malformedEvent, r) := by
  unfold readEvent
  cases a.read <;> rfl

theorem run_authenticate (d : Deployment) (a : Option Text) (r : Run) :
    (authenticate d a).run r =
      ((d.validate a r.caches).1.mapError (attributed .validationInfrastructure),
        { r.add (.asked a) with caches := (d.validate a r.caches).2.1 }.addRecords
          (d.validate a r.caches).2.2) := by
  simp only [authenticate, run_bind, run_modify, run_get, Run.add]
  cases (d.validate a r.caches).1 <;>
    simp [Except.mapError_ok, Except.mapError_error, run_pure, run_failWith, Run.addRecords]

/-- How the access log words a user, if it is kept. -/
def accessText (d : Deployment) (user : User) : Except Failure (Option Text) := do
  if ← d.enableAccessLog then
    let shown ← d.userText user
    pure (some shown)
  else pure none

/-- The record of an access. -/
def accessRecord (id : Value) (q : Query) (shown : Text) : Log.Record :=
  .of Log.info logger (("Executing query " : Text) ++ operationShown q ++ ", for user " ++ shown) id
    [("operation_name", operationField q), ("user", .text shown)] none

theorem run_logAccess (d : Deployment) (q : Query) (user : User) (r : Run) :
    (logAccess d q user).run r =
      match accessText d user with
      | .ok shown =>
        (.ok (), (r.add (.consulting .accessLog)).addRecords
          (shown.toList.map (accessRecord r.correlationId q)))
      | .error f => (.error f, r.add (.consulting .accessLog)) := by
  simp only [logAccess, accessText, run_bind, run_consult]
  cases d.enableAccessLog with
  | error f => rfl
  | ok kept =>
      cases kept with
      | false =>
          show (Except.ok (), r.add (.consulting .accessLog)) =
            (.ok (), (r.add (.consulting .accessLog)).addRecords [])
          simp [Run.addRecords]
      | true =>
          simp only [if_true, run_bind, run_ofExcept]
          cases d.userText user with
          | error f => rfl
          | ok shown => rfl

theorem run_build (d : Deployment) (q : Query) (user : User) (r : Run) :
    (build d q user).run r =
      match (d.buildContext user q r.caches).1 with
      | .ok c =>
        (.ok c, { r.add (.building user q) with
          caches := (d.buildContext user q r.caches).2
          built := some ⟨user, q, asSubscribers c, none⟩ })
      | .error f =>
        (.error f, { r.add (.building user q) with
          caches := (d.buildContext user q r.caches).2 }) := by
  simp only [build, run_bind, run_modify, run_get, run_ofExcept, Run.add]
  cases (d.buildContext user q r.caches).1 <;> rfl

theorem run_dispatch (d : Deployment) (q : Query) (user : User) (c : InvocationContext) (r : Run) :
    (dispatch d q user c).run r =
      match (d.dispatch user q c r.caches).1 with
      | .ok e =>
        (.ok e, { (r.add (.dispatching q)).add (.given c) with
          caches := (d.dispatch user q c r.caches).2
          dispatched := true
          due := some e })
      | .error f =>
        (.error f, { (r.add (.dispatching q)).add (.given c) with
          caches := (d.dispatch user q c r.caches).2 }) := by
  simp only [dispatch, run_bind, run_modify, run_get, run_ofExcept, Run.add]
  cases (d.dispatch user q c r.caches).1 <;> rfl

/-- A context that was started before fails, and its hook is not run. -/
theorem run_start_started (d : Deployment) {r : Run} {b : Built} (hb : r.built = some b)
    (hs : b.context.stage = .started) (hd : b.doneAtStart = none) :
    (start d).run r =
      (.error b.context.alreadyStarted, r.add (.starting theExecution)) := by
  obtain ⟨user, q, context, done⟩ := b
  obtain ⟨stage, execution, pending, cache, hookRuns⟩ := context
  cases hs
  cases hd
  cases r
  cases hb
  rfl

/-- The start of a context that was only created runs its hook, and ends as the hook does. -/
theorem run_start_created (d : Deployment) {r : Run} {b : Built} (hb : r.built = some b)
    (hs : b.context.stage = .created) :
    (start d).run r =
      ((d.hook b.user b.query r.caches).1.outcome,
        let hook := (runHook d b r.caches).1
        let started := (b.context.start r.loop theExecution hook).2
        { (r.add (.starting theExecution)).add (.hooking theExecution) with
          caches := (d.hook b.user b.query r.caches).2
          loop := started.2
          built := some { b with
            context := started.1, doneAtStart := some (r.loop.isDone theExecution) } }) := by
  obtain ⟨user, q, context, done⟩ := b
  obtain ⟨stage, execution, pending, cache, hookRuns⟩ := context
  cases hs
  simp only [start, run_bind, run_modify, run_get, Run.add, hb]
  simp only [Context.isStarted, runHook, Context.start, reduceCtorEq, decide_false,
    Bool.false_eq_true, if_false, run_set, run_ofExcept]

/-! ## The stages after it -/

/-- The response to a document, given whether the deployment compresses. -/
def responseTo (headers : Http.Headers) (body : Text) (compress : Bool) : Response :=
  if compress && Http.AcceptEncoding.acceptsGzip headers then .compressed 200 body
  else .plain 200 body

theorem run_respond (d : Deployment) (headers : Http.Headers) (body : Text) (r : Run) :
    (respond d headers body).run r =
      (d.enableCompression.map (responseTo headers body), r.add (.consulting .compression)) := by
  simp only [respond, run_bind, run_consult]
  cases d.enableCompression with
  | error f => rfl
  | ok compress =>
      simp only [Except.map, responseTo]
      split <;> rfl

/-- The record of a query that was executed. -/
def executedRecord (id : Value) (q : Query) (result : Result) : Log.Record :=
  .of Log.debug logger "Query executed" id
    [("operation_name", operationField q), ("error_count", .int result.errorCount)] none

theorem run_answer (d : Deployment) (a : Prepared) (o : Except Failure Result) (r : Run) :
    (answer d a o).run r =
      match o with
      | .error f => (.error (attributed .executionFailure f), r)
      | .ok result =>
        match dumpDocument d.room (Value.object result.document) with
        | .error f => (.error f, r)
        | .ok body =>
          match d.enableCompression.map (responseTo a.event.headers body) with
          | .error f => (.error f, r.add (.consulting .compression))
          | .ok response =>
            (.ok response, (r.add (.consulting .compression)).add
              (.record (executedRecord r.correlationId a.query result))) := by
  cases o with
  | error f => rfl
  | ok result =>
      simp only [answer, run_bind, run_ofExcept, run_respond, run_log, run_pure]
      cases dumpDocument d.room (Value.object result.document) with
      | error f => rfl
      | ok body =>
          simp only
          cases d.enableCompression.map (responseTo a.event.headers body) <;> rfl

end QueryGateway.Invocation
