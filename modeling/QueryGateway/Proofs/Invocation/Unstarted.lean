import QueryGateway.Proofs.Invocation.Callbacks
import QueryGateway.Proofs.Invocation.Order
import QueryGateway.Proofs.Invocation.Records

/-!
# Executions whose context could not be started

The engine hands out an execution, and then the context that it was given cannot be started: it was
started before, or its hook fails. Nobody waits for such an execution, but it is in the hands of the
loop, and its step is due. Behind the outcome of the invocation it is asked to end. That is all
there is when the invocation returns: the execution has not ended. In the next turn it takes its
step, and only because it was asked it ends there without having begun.

That it never runs is said in two ways. Its run is no deed of the invocation, neither by the return
nor later (`Stillborn.unrun`). And it could be any other execution: exchange it for whatever else,
and nobody can tell the two invocations apart, not even when the loop has nothing more to do
(`Dispatched.handle_exchange`, two invocations side by side).

A context that was built and not started is reported. `Stranded` says when there is one: only if the
engine itself failed. The validator is free to leave records that look like this report; these are
told apart from the adapter's own by where they come from (`said`).
-/

namespace QueryGateway.Invocation

open Execution (Context Loop Outcome)

variable {d : Deployment} {arrival : Arrival} {caches : Caches}

/-! ## Starts that fail, and contexts that are left over -/

/-- The start of the context fails: it was started before, or its hook fails. -/
def Dispatched.StartFails (m : Dispatched d arrival caches) : Prop :=
  m.context.stage = .started ∨ ∃ f, m.hook.1.outcome = .error f

/-- The context was only created, and the engine failed. -/
def Equipped.Stranded (m : Equipped d arrival caches) : Prop :=
  m.context.stage = .created ∧
    ∃ f, (d.dispatch m.user m.query m.context m.afterBuild).1 = .error f

/-- An engine that handed out an execution did not fail. -/
theorem Dispatched.not_failed (m : Dispatched d arrival caches) (m' : Equipped d arrival caches)
    (f : Failure) : (d.dispatch m'.user m'.query m'.context m'.afterBuild).1 ≠ .error f := by
  cases Subsingleton.elim m.toEquipped m'
  exact fun failed => nomatch m.dispatched.symm.trans failed

/-- A context that was started was started without failing. -/
theorem Started.not_startFails (m : Started d arrival caches) (m' : Dispatched d arrival caches) :
    ¬ m'.StartFails := by
  cases Subsingleton.elim m.toDispatched m'
  rintro (started | ⟨f, failed⟩)
  · cases m.created.symm.trans started
  · exact nomatch m.started.symm.trans failed

/-! ## The execution at the outcome -/

variable (d arrival caches) in
/-- What has become of the context and the execution of an invocation, at its outcome. -/
inductive Standing (id : Value) (c : Course) : Prop
  /-- There is neither. -/
  | absent : ¬ Nonempty (Equipped d arrival caches) → c.run.dispatched = false →
      c.run.built = none → Standing id c
  /-- There is a context, and the engine failed. -/
  | undispatched (m : Equipped d arrival caches) (f : Failure) :
      (d.dispatch m.user m.query m.context m.afterBuild).1 = .error f →
      c.run.dispatched = false → c.run = m.dispatching id → Standing id c
  /-- The execution was handed out and is left behind. -/
  | unstarted (m : Dispatched d arrival caches) : m.StartFails → leavesBehind c.run = true →
      (∀ e, .awaiting e ∉ calls c.run.trace ∧ .running e ∉ calls c.run.trace) →
      (∀ b, c.run.built = some b → b.context.isStarted = true) → Standing id c
  /-- It ran to its end. -/
  | ended (m : Started d arrival caches) : c.run.dispatched = true →
      c.run.loop.outcome? theExecution = some (outcomeOf (m.execution.run m.hook.2).1) →
      (∀ b, c.run.built = some b → b.context.isStarted = true) → Standing id c

/-- A context is started by its first start, however the hook ends. -/
theorem Dispatched.begun_started (m : Dispatched d arrival caches)
    (created : m.context.stage = .created) : m.begun.1.isStarted = true := by
  rw [begun, Context.start_created (c := asSubscribers m.context) created]
  rfl

theorem Started.standing (m : Started d arrival caches) {id : Value} {c : Course}
    (dispatched : c.run.dispatched = true) (loop : c.run.loop = (m.performed id).2.2.loop)
    (built : c.run.built = (m.toDispatched.starting id).built) :
    Standing d arrival caches id c := by
  obtain ⟨ending, performed, -, ended⟩ := m.performed_eq id rfl
  rw [performed] at loop
  refine .ended m dispatched (loop ▸ ended) ?_
  intro b here
  cases built.symm.trans here
  exact m.begun_started m.created

theorem Passage.standing {id : Value} {c : Course} (p : Passage d arrival caches id c) :
    Standing d arrival caches id c := by
  cases p with
  | unopened f h => exact .absent (fun ⟨m⟩ => nomatch h.symm.trans m.opened) rfl rfl
  | rejected m x h => exact .absent (fun ⟨m⟩ => nomatch h.symm.trans m.addressed) rfl rfl
  | misunderstood m f h =>
      refine .absent (fun ⟨m'⟩ => ?_) rfl rfl
      cases Subsingleton.elim m m'.toAddressed
      exact nomatch h.symm.trans m'.understood
  | refused m f h =>
      refine .absent (fun ⟨m'⟩ => ?_) rfl rfl
      cases Subsingleton.elim m m'.toUnderstood
      exact nomatch h.symm.trans m'.admitted
  | unnoted m f h =>
      refine .absent (fun ⟨m'⟩ => ?_) rfl rfl
      cases Subsingleton.elim m m'.toAdmitted
      exact nomatch h.symm.trans m'.noted
  | unequipped m f h =>
      refine .absent (fun ⟨m'⟩ => ?_) rfl rfl
      cases Subsingleton.elim m m'.toNoted
      exact nomatch h.symm.trans m'.equipped
  | undispatched m f h => exact .undispatched m f h rfl rfl
  | startedBefore m h =>
      refine .unstarted m (.inl h) rfl ?_ ?_
      · intro e
        rw [m.calls_start id]
        simp [script]
      · intro b here
        cases here
        exact decide_eq_true h
  | unstarted m f created h =>
      refine .unstarted m (.inr ⟨f, h⟩) (m.starting_pending id created) ?_ ?_
      · intro e
        rw [m.calls_hook id]
        simp [script]
      · intro b here
        cases here
        exact m.begun_started created
  | unperformed m => exact m.standing rfl rfl rfl
  | unwritten m => exact m.toStarted.standing rfl rfl rfl
  | unanswered m => exact m.toStarted.standing rfl rfl rfl
  | answered m => exact m.toStarted.standing rfl rfl rfl

/-- Where the start fails the execution is left behind, and the context counts as started. -/
theorem Standing.of_startFails {id : Value} {c : Course} (s : Standing d arrival caches id c)
    {m : Dispatched d arrival caches} (fails : m.StartFails) :
    leavesBehind c.run = true ∧
      (∀ e, .awaiting e ∉ calls c.run.trace ∧ .running e ∉ calls c.run.trace) ∧
      ∀ b, c.run.built = some b → b.context.isStarted = true := by
  cases s with
  | absent none => exact absurd ⟨m.toEquipped⟩ none
  | undispatched m' f failed => exact absurd failed (m.not_failed m' f)
  | unstarted _ _ behind unrun started => exact ⟨behind, unrun, started⟩
  | ended m' => exact absurd fails (m'.not_startFails m)

theorem Standing.dispatched_iff {id : Value} {c : Course} (s : Standing d arrival caches id c) :
    c.run.dispatched = true ↔ Nonempty (Dispatched d arrival caches) := by
  cases s with
  | absent none no =>
      rw [no]
      exact ⟨nofun, fun ⟨m⟩ => absurd ⟨m.toEquipped⟩ none⟩
  | undispatched m f failed no =>
      rw [no]
      exact ⟨nofun, fun ⟨m'⟩ => absurd failed (m'.not_failed m f)⟩
  | unstarted m _ behind => exact ⟨fun _ => ⟨m⟩, fun _ => (Bool.and_eq_true_iff.mp behind).1⟩
  | ended m yes => exact ⟨fun _ => ⟨m.toDispatched⟩, fun _ => yes⟩

/-- An execution that was handed out is left behind, or it ended as somebody waited to see. -/
theorem Standing.ends {id : Value} {c : Course} (s : Standing d arrival caches id c)
    (handed : c.run.dispatched = true) :
    (leavesBehind c.run = true ∧ ¬ Nonempty (Started d arrival caches)) ∨
      leavesBehind c.run = false ∧ ∃ m : Started d arrival caches,
        c.run.loop.outcome? theExecution = some (outcomeOf (m.execution.run m.hook.2).1) := by
  cases s with
  | absent none no => exact nomatch handed.symm.trans no
  | undispatched m f failed no => exact nomatch handed.symm.trans no
  | unstarted m fails behind => exact .inl ⟨behind, fun ⟨m'⟩ => m'.not_startFails m fails⟩
  | ended m yes ended =>
      refine .inr ⟨?_, m, ended⟩
      rw [leavesBehind, Loop.isDone, ended]
      exact Bool.and_false _

/-! ## Other executions in its place -/

/-- The deployment with other executions in the place of those that its engine hands out. -/
def Deployment.exchange (d : Deployment) (other : PendingExecution → PendingExecution) :
    Deployment :=
  { d with
    dispatch := fun user q c caches =>
      ((d.dispatch user q c caches).1.map other, (d.dispatch user q c caches).2) }

/-- The course with another execution in the place of one that has still to take its step. -/
def Course.exchange (c : Course) (other : PendingExecution → PendingExecution) : Course :=
  { c with run := { c.run with due := c.run.due.map other } }

theorem Rest.exchange {c : Course} {effects : List CacheEffect} (rest : Rest c effects)
    (other : PendingExecution → PendingExecution) : Rest (c.exchange other) effects := by
  cases rest with
  | behind ended none idle here =>
      exact .behind ended (congrArg (Option.map other) none) idle here
  | due e left due waiting idle alone =>
      exact .due (other e) left (congrArg (Option.map other) due) waiting idle alone

/-- The milestone of an execution, with another one in its place. -/
def Dispatched.exchange (m : Dispatched d arrival caches)
    (other : PendingExecution → PendingExecution) :
    Dispatched (d.exchange other) arrival caches :=
  { showCause := m.showCause
    opened := m.opened
    event := m.event
    addressed := m.addressed
    query := m.query
    understood := m.understood
    user := m.user
    admitted := m.admitted
    shown := m.shown
    noted := m.noted
    context := m.context
    equipped := m.equipped
    execution := other m.execution
    dispatched := congrArg (Except.map other) m.dispatched }

/-- Where an execution was handed out, everything up to it comes to what the start comes to. -/
theorem Dispatched.prepare_eq (m : Dispatched d arrival caches) (id : Value) :
    (prepare d arrival).run (Run.initial caches id) =
      (((start d).run (m.run id)).1.map fun _ => ⟨m.event, m.query, m.execution⟩,
        ((start d).run (m.run id)).2) := by
  have consulted : (consult .failureCause d.showFailureCause).run (Run.initial caches id) =
      (.ok m.showCause, (Run.initial caches id).add (.consulting .failureCause)) := by
    rw [run_consult, m.opened]
  have read : (ofExcept (decodeBody m.event >>= Query.parse)).run (m.toAddressed.run id caches) =
      (.ok m.query, m.toAddressed.run id caches) := by
    rw [run_ofExcept, m.understood]
  unfold prepare
  rw [run_bind_ok consulted, run_bind_ok (m.note id caches),
    run_bind_ok (m.readEvent_ok id caches), run_bind_ok (m.identify id caches), run_bind_ok read,
    run_bind_ok (m.authenticate_ok id), run_bind_ok (m.logAccess_ok id),
    run_bind_ok (m.build_ok id), run_bind_ok (m.dispatch_ok id), run_bind]
  rcases (start d).run (m.run id) with ⟨_ | _, r⟩ <;> rfl

/-- Where the start fails the invocation ends with it. -/
theorem Dispatched.course_fails (m : Dispatched d arrival caches) {f : Failure} {r : Run}
    {id : Value} (failed : (start d).run (m.run id) = (.error f, r)) :
    course d arrival id caches = ⟨.error f, [], r⟩ := by
  rw [course, m.prepare_eq id, failed]
  rfl

/-- An invocation whose start fails takes the same course with any other execution. -/
theorem Dispatched.course_exchange (m : Dispatched d arrival caches) (fails : m.StartFails)
    (other : PendingExecution → PendingExecution) (id : Value) :
    course (d.exchange other) arrival id caches =
      (course d arrival id caches).exchange other := by
  cases stage : m.context.stage with
  | started =>
      rw [m.course_fails (m.start_started id stage),
        (m.exchange other).course_fails ((m.exchange other).start_started id stage)]
      rfl
  | created =>
      rcases fails with started | ⟨f, failed⟩
      · cases stage.symm.trans started
      · have here := m.start_created id stage
        have there := (m.exchange other).start_created id stage
        have failed' : (m.exchange other).hook.1.outcome = .error f := failed
        rw [failed] at here
        rw [failed'] at there
        rw [m.course_fails here, (m.exchange other).course_fails there]
        rfl

/-- Nobody can tell these two invocations apart, neither by their return nor later. -/
structure Visit.Alike (v w : Visit) : Prop where
  ending : v.ending = w.ending
  caches : v.run.caches = w.run.caches
  trace : v.settled.trace = w.settled.trace
  settledCaches : v.settledCaches = w.settledCaches
  execution : v.execution? = w.execution?

theorem Dispatched.handle_exchange (m : Dispatched d arrival caches) (fails : m.StartFails)
    (other : PendingExecution → PendingExecution) (requestId : Value) (fresh : Text) :
    (handle (d.exchange other) arrival requestId fresh caches).Alike
      (handle d arrival requestId fresh caches) := by
  let id := initialId requestId fresh
  let c := course d arrival id caches
  have exchanged : handle (d.exchange other) arrival requestId fresh caches =
      close (d.exchange other) c.outcome c.behind (c.exchange other).run := by
    rw [handle, m.course_exchange fails]
    rfl
  obtain ⟨effects, rest⟩ := (course_passage d arrival caches id).fate.rest
  obtain ⟨here, ended⟩ := rest.closed d
  obtain ⟨there, ended'⟩ := (rest.exchange other).closed (d.exchange other)
  have caches_eq : (close (d.exchange other) c.outcome c.behind (c.exchange other).run).run.caches =
      (close d c.outcome c.behind c.run).run.caches := by
    rw [close_run, close_run]
    rfl
  have trace_eq : (close (d.exchange other) c.outcome c.behind (c.exchange other).run).run.trace =
      (close d c.outcome c.behind c.run).run.trace := by
    rw [close_run, close_run]
    rfl
  rw [exchanged]
  refine ⟨?_, caches_eq, ?_, ?_, ended'.trans ended.symm⟩
  · rw [close_ending, handle, close_ending]
    rfl
  · exact there.trace.trans (trace_eq.trans here.trace.symm)
  · exact there.caches.trans ((congrArg (applyAll effects) caches_eq).trans here.caches.symm)

/-! ## Reports of contexts that are left over -/

/-- Whether a record reports a context that was built and not started. -/
def isDropped (r : Log.Record) : Bool :=
  r.level = Log.warning && r.message = "Execution context dropped before it was started"

/-- The reports of such contexts in a trace. -/
def droppedReports (trace : List Deed) : List Log.Record := (recordsOf trace).filter isDropped

@[simp] theorem isDropped_access (id : Value) (q : Query) (shown : Text) :
    isDropped (accessRecord id q shown) = false := rfl

@[simp] theorem isDropped_executed (id : Value) (q : Query) (result : Result) :
    isDropped (executedRecord id q result) = false := rfl

@[simp] theorem isDropped_denial (f : Failure) (id : Value) :
    isDropped (denialRecord f id) = false := rfl

@[simp] theorem isDropped_breakdown (f : Failure) (id : Value) :
    isDropped (breakdownRecord f id) = false := rfl

@[simp] theorem isDropped_dropped (d : Deployment) (r : Run) :
    isDropped (droppedRecord d r) = true := rfl

@[simp] theorem isDropped_evicted (n : Nat) : isDropped (Cache.evictedRecord n) = false := rfl

theorem Noted.access_dropped (m : Noted d arrival caches) (id : Value) :
    (m.access id).filter isDropped = [] := by
  rw [access]
  cases m.shown with
  | none => rfl
  | some shown => simp

/-- Up to its outcome an invocation reports no such context. -/
theorem Passage.droppedReports_eq {id : Value} {c : Course} (p : Passage d arrival caches id c) :
    droppedReports c.run.trace = (said d arrival caches).filter isDropped := by
  rw [droppedReports]
  cases outcome : c.outcome with
  | error f =>
      rcases p.records_error outcome with records | ⟨m, records⟩
      · rw [records]
      · rw [records, List.filter_append, m.access_dropped, List.append_nil]
  | ok response =>
      obtain ⟨m, -, records⟩ := p.records_ok outcome
      rw [records, List.filter_append, List.filter_append, m.access_dropped]
      simp

/-- Behind it there is a report exactly of a context that is left over. -/
theorem droppedReports_closing (d : Deployment) (o : Except Failure Response) (r : Run) :
    (closingRecords d o r).filter isDropped = (droppedRecord? d r).toList := by
  have settled : (outcomeRecord? o r.correlationId).toList.filter isDropped = [] := by
    cases o with
    | ok response => rfl
    | error f =>
        rw [outcomeRecord?, failureRecord]
        split
        · rfl
        · split <;> simp
  have dropped : (droppedRecord? d r).toList.filter isDropped = (droppedRecord? d r).toList := by
    rw [droppedRecord?]
    cases r.built with
    | none => rfl
    | some b =>
        rw [Option.bind_some]
        split <;> simp
  have evicted : (r.caches d.cache).evict.2.filter isDropped = [] := by
    rw [Cache.evict]
    split <;> simp
  rw [closingRecords, List.filter_append, List.filter_append, settled, dropped, evicted,
    List.nil_append, List.append_nil]

/-- A run in which every context was started reports none. -/
theorem droppedRecord?_started {r : Run}
    (started : ∀ b, r.built = some b → b.context.isStarted = true) : droppedRecord? d r = none := by
  rw [droppedRecord?]
  cases built : r.built with
  | none => rfl
  | some b => simp [started b built]

/-- The report of a context that is left over. -/
def Equipped.report (m : Equipped d arrival caches) (id : Value) : Log.Record :=
  .of Log.warning logger "Execution context dropped before it was started" (idOf id m.event)
    [("context_type", .text d.contextName)] none

theorem Standing.droppedRecord?_eq {id : Value} {c : Course} (s : Standing d arrival caches id c) :
    (∃ m : Equipped d arrival caches, m.Stranded ∧ droppedRecord? d c.run = some (m.report id)) ∨
      (∀ m : Equipped d arrival caches, ¬ m.Stranded) ∧ droppedRecord? d c.run = none := by
  cases s with
  | absent none dispatched built =>
      refine .inr ⟨fun m _ => none ⟨m⟩, ?_⟩
      rw [droppedRecord?, built]
      rfl
  | undispatched m f failed dispatched run =>
      rw [run]
      cases stage : m.context.stage with
      | created =>
          refine .inl ⟨m, ⟨stage, f, failed⟩, ?_⟩
          have created : (asSubscribers m.context).isStarted = false := by
            show decide (m.context.stage = .started) = false
            rw [stage]
            rfl
          show (if (asSubscribers m.context).isStarted then none else _) = _
          rw [created]
          rfl
      | started =>
          refine .inr ⟨?_, ?_⟩
          · intro m' stranded
            cases Subsingleton.elim m m'
            cases stage.symm.trans stranded.1
          · refine droppedRecord?_started ?_
            intro b here
            cases here
            exact decide_eq_true stage
  | unstarted m fails behind unrun started =>
      refine .inr ⟨?_, droppedRecord?_started started⟩
      rintro m' ⟨-, f, failed⟩
      exact m.not_failed m' f failed
  | ended m dispatched ended started =>
      refine .inr ⟨?_, droppedRecord?_started started⟩
      rintro m' ⟨-, f, failed⟩
      exact m.not_failed m' f failed

/-! ## Whole invocations -/

variable (d arrival caches) in
/-- What is left of an invocation whose execution was handed out and whose start failed. -/
structure Stillborn (v : Visit) : Prop where
  /-- When the invocation returns the execution was asked to end, and it has not. -/
  asked : v.run.cancelling = true ∧ v.run.loop.outcome? theExecution = none
  /-- It ends cancelled. -/
  cancelled : v.execution? = some .cancelled
  /-- It never ran, neither by then nor later, and nobody waited for it. -/
  unrun : ∀ e, .running e ∉ v.settled.trace ∧ .awaiting e ∉ v.settled.trace
  /-- The cache of the adapter is empty when the invocation returns. -/
  evicted : v.run.caches d.cache = Cache.empty
  /-- Later only the callbacks change the caches. -/
  untouched : v.settledCaches = applyAll v.left v.run.caches
  /-- The context is not reported. -/
  unreported : droppedReports v.run.trace = (said d arrival caches).filter isDropped

/-- Where the start fails the execution is left behind, and the loop finds that it was asked to
end. -/
theorem Dispatched.stillborn (m : Dispatched d arrival caches) (fails : m.StartFails)
    (requestId : Value) (fresh : Text) :
    Stillborn d arrival caches (handle d arrival requestId fresh caches) := by
  let c := course d arrival (initialId requestId fresh) caches
  have passage : Passage d arrival caches (initialId requestId fresh) c := course_passage ..
  obtain ⟨behind, unrun, started⟩ := passage.standing.of_startFails fails
  obtain ⟨effects, rest⟩ := passage.fate.rest
  obtain ⟨closed, execution⟩ := rest.closed d
  have closing := close_run d c.outcome c.behind c.run
  have pending : c.run.loop.outcome? theExecution = none := by
    have running := (Bool.and_eq_true_iff.mp behind).2
    rwa [Bool.not_eq_true', Loop.isDone, Option.isSome_eq_false_iff,
      Option.isNone_iff_eq_none] at running
  have called {deed : Deed} (call : deed.isCall = true)
      (mem : deed ∈ (handle d arrival requestId fresh caches).settled.trace) :
      deed ∈ calls c.run.trace := by
    rw [← calls_records c.run.trace (closingRecords d c.outcome c.run),
      ← close_trace d c.outcome c.behind c.run, ← closed.trace]
    exact List.mem_filter.mpr ⟨mem, call⟩
  refine ⟨?_, ?_, fun e => ?_, handle_evicts d arrival requestId fresh caches, ?_, ?_⟩
  · show (close d c.outcome c.behind c.run).run.cancelling = true ∧
      (close d c.outcome c.behind c.run).run.loop.outcome? theExecution = none
    rw [closing]
    exact ⟨by rw [behind]; rfl, pending⟩
  · exact execution.trans (if_pos behind)
  · exact ⟨fun mem => (unrun e).2 (called rfl mem), fun mem => (unrun e).1 (called rfl mem)⟩
  · exact closed.caches.trans (congrArg (applyAll · _) closed.left.symm)
  · rw [droppedReports, handle_records, List.filter_append, droppedReports_closing,
      droppedRecord?_started started]
    exact (List.append_nil _).trans passage.droppedReports_eq

variable (d arrival caches) in
/-- A start that fails leaves nothing running. The execution that was handed out is asked to end,
takes its step only after the invocation has returned and ends without having begun; whatever it
would have done is neither done nor left to be done. A context is reported exactly if the engine
failed before it could be started. And when an invocation has returned an execution has ended or was
asked to, and it ends: as it did, if somebody waited for it. -/
theorem failed_start_leaves_nothing_running (requestId : Value) (fresh : Text) :
    let v := handle d arrival requestId fresh caches
    let others := (said d arrival caches).filter isDropped
    (∀ m : Dispatched d arrival caches, m.StartFails →
        Stillborn d arrival caches v ∧
          ∀ other, (handle (d.exchange other) arrival requestId fresh caches).Alike v) ∧
      ((∃ m : Equipped d arrival caches, m.Stranded ∧
          droppedReports v.run.trace = others ++ [m.report (initialId requestId fresh)]) ∨
        (∀ m : Equipped d arrival caches, ¬ m.Stranded) ∧
          droppedReports v.run.trace = others) ∧
      (v.run.dispatched = true ↔ Nonempty (Dispatched d arrival caches)) ∧
      (v.run.dispatched = true →
        (v.run.loop.isDone theExecution || v.run.cancelling) = true ∧
          ∃ outcome, v.execution? = some outcome ∧
            ∀ m : Started d arrival caches, v.run.loop.outcome? theExecution = some outcome ∧
              outcome = outcomeOf (m.execution.run m.hook.2).1) := by
  intro v others
  let c := course d arrival (initialId requestId fresh) caches
  have passage : Passage d arrival caches (initialId requestId fresh) c := course_passage ..
  have standing := passage.standing
  have closing : v.run = _ := close_run d c.outcome c.behind c.run
  have reports : droppedReports v.run.trace = others ++ (droppedRecord? d c.run).toList := by
    rw [droppedReports, handle_records, List.filter_append, droppedReports_closing]
    exact congrArg (· ++ _) passage.droppedReports_eq
  have dispatched : v.run.dispatched = c.run.dispatched := by rw [closing]
  refine ⟨fun m fails => ⟨m.stillborn fails requestId fresh,
    fun other => m.handle_exchange fails other requestId fresh⟩, ?_, ?_, ?_⟩
  · rcases standing.droppedRecord?_eq with ⟨m, stranded, record⟩ | ⟨none, record⟩
    · exact .inl ⟨m, stranded, by rw [reports, record]; rfl⟩
    · exact .inr ⟨none, by rw [reports, record]; exact List.append_nil _⟩
  · rw [dispatched]
    exact standing.dispatched_iff
  · intro handed
    rw [dispatched] at handed
    obtain ⟨effects, rest⟩ := passage.fate.rest
    have execution : v.execution? = _ := (rest.closed d).2
    have loop : v.run.loop = c.run.loop := by rw [closing]
    have cancelling : v.run.cancelling = (leavesBehind c.run || c.run.cancelling) := by
      rw [closing]
    rw [loop, cancelling, execution]
    rcases standing.ends handed with ⟨behind, never⟩ | ⟨through, m, ended⟩
    · rw [behind]
      exact ⟨Bool.or_true _, .cancelled, rfl, fun m => absurd ⟨m⟩ never⟩
    · rw [through, Loop.isDone, ended]
      refine ⟨rfl, _, rfl, fun m' => ?_⟩
      cases Subsingleton.elim m m'
      exact ⟨rfl, rfl⟩

open Rehearsal in
/-- An execution that leaves an entry in the cache. -/
def lateEntryExecution : PendingExecution :=
  ⟨fun caches => (.ok report, leaveLateEntry caches, [leaveLateEntry])⟩

open Rehearsal in
/-- The hook fails behind an execution that would leave an entry in the cache. -/
theorem failed_start_leaves_nothing_running_failingHook :
    (handle failingHookDeployment (.event helloEvent) .null "id"
        Caches.empty).run.dispatched = true ∧
      Stillborn failingHookDeployment (.event helloEvent) Caches.empty
        (handle failingHookDeployment (.event helloEvent) .null "id" Caches.empty) ∧
      (handle (failingHookDeployment.exchange fun _ => lateEntryExecution) (.event helloEvent)
        .null "id" Caches.empty).Alike
          (handle failingHookDeployment (.event helloEvent) .null "id" Caches.empty) := by
  have handed : (handle failingHookDeployment (.event helloEvent) .null "id"
      Caches.empty).run.dispatched = true := by decide +kernel
  obtain ⟨fails, -, reached, -⟩ :=
    failed_start_leaves_nothing_running failingHookDeployment (.event helloEvent) Caches.empty
      .null "id"
  obtain ⟨m⟩ := reached.mp handed
  obtain ⟨stillborn, same⟩ := fails m (.inr ⟨_, rfl⟩)
  exact ⟨handed, stillborn, same fun _ => lateEntryExecution⟩

end QueryGateway.Invocation
