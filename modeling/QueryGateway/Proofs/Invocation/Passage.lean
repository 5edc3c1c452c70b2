import QueryGateway.Proofs.Invocation.Stage

/-!
# How far an invocation gets

An invocation passes milestones in a fixed order, and each way in which it can end is: it passed
these milestones, and what comes next failed. A milestone is a structure. It holds what is known by
then, with the answer of each collaborator that was asked so far, and it extends the milestone in
front of it. So whoever has a milestone has every answer that led to it.

    Opened      the deployment told whether failures are shown
    Addressed   the event was read
    Understood  the query was read
    Admitted    the validator named a user
    Noted       the access was recorded, or need not be
    Equipped    the context was built
    Dispatched  the engine handed out an execution
    Started     the context was started
    Performed   the execution ended with a result
    Written     the result became a text

`Passage` lists the ends, one constructor each, and gives for each the outcome, the callbacks behind
the adapter and the run in full. `course_passage` says that there is no other end: every statement
about all invocations is a case analysis of `Passage`.

What is NOT here: the clean-up, which is the same behind every end.
-/

namespace QueryGateway.Invocation

open Execution (Context Loop)

section Milestones
variable (d : Deployment) (arrival : Arrival) (caches : Caches)

/-! ## Milestones -/

structure Opened where
  showCause : Bool
  opened : d.showFailureCause = .ok showCause

structure Addressed extends Opened d where
  event : Event
  addressed : arrival.read = .ok event

/-- The credentials of an event: the value of the header that carries them, if it is there. -/
abbrev credentials (e : Event) : Option Text := e.headers.get? Http.authorization

structure Understood extends Addressed d arrival where
  query : Query
  understood : (decodeBody event >>= Query.parse) = .ok query

structure Admitted extends Understood d arrival where
  user : User
  admitted : (d.validate (credentials event) caches).1 = .ok user

structure Noted extends Admitted d arrival caches where
  shown : Option Text
  noted : accessText d user = .ok shown

/-- The caches that the validator leaves. -/
abbrev Addressed.afterValidation {d : Deployment} {arrival : Arrival} (m : Addressed d arrival)
    (caches : Caches) : Caches :=
  (d.validate (credentials m.event) caches).2.1

structure Equipped extends Noted d arrival caches where
  context : InvocationContext
  equipped : (d.buildContext user query (toAddressed.afterValidation caches)).1 = .ok context

/-- The caches that are left when a context was asked for. -/
abbrev Admitted.afterBuild {d : Deployment} {arrival : Arrival} {caches : Caches}
    (m : Admitted d arrival caches) : Caches :=
  (d.buildContext m.user m.query (m.afterValidation caches)).2

structure Dispatched extends Equipped d arrival caches where
  execution : PendingExecution
  dispatched : (d.dispatch user query context toAdmitted.afterBuild).1 = .ok execution

/-- The caches that are left when an execution was asked for. -/
abbrev Equipped.afterDispatch {d : Deployment} {arrival : Arrival} {caches : Caches}
    (m : Equipped d arrival caches) : Caches :=
  (d.dispatch m.user m.query m.context m.afterBuild).2

structure Started extends Dispatched d arrival caches where
  created : context.stage = .created
  started : (d.hook user query toEquipped.afterDispatch).1.outcome = .ok ()

/-- What the hook of the context does to it, and to the caches. -/
abbrev Dispatched.hook {d : Deployment} {arrival : Arrival} {caches : Caches}
    (m : Dispatched d arrival caches) : Context.Hook CacheEffect × Caches :=
  d.hook m.user m.query m.afterDispatch

structure Performed extends Started d arrival caches where
  result : Result
  performed : (execution.run toDispatched.hook.2).1 = .ok result

structure Written extends Performed d arrival caches where
  body : Text
  written : dumpDocument d.room (Value.object result.document) = .ok body

end Milestones

/-! ## A milestone is passed in one way only

What a milestone holds was answered by somebody who was asked with what the milestone in front of it
holds. -/

section Uniqueness
variable {d : Deployment} {arrival : Arrival} {caches : Caches}

instance : Subsingleton (Opened d) where
  allEq := by
    rintro ⟨_, h⟩ ⟨_, h'⟩
    cases h.symm.trans h'
    rfl

instance : Subsingleton (Addressed d arrival) where
  allEq := by
    rintro ⟨m, _, h⟩ ⟨m', _, h'⟩
    obtain rfl := Subsingleton.elim m m'
    cases h.symm.trans h'
    rfl

instance : Subsingleton (Understood d arrival) where
  allEq := by
    rintro ⟨m, _, h⟩ ⟨m', _, h'⟩
    obtain rfl := Subsingleton.elim m m'
    cases h.symm.trans h'
    rfl

instance : Subsingleton (Admitted d arrival caches) where
  allEq := by
    rintro ⟨m, _, h⟩ ⟨m', _, h'⟩
    obtain rfl := Subsingleton.elim m m'
    cases h.symm.trans h'
    rfl

instance : Subsingleton (Noted d arrival caches) where
  allEq := by
    rintro ⟨m, _, h⟩ ⟨m', _, h'⟩
    obtain rfl := Subsingleton.elim m m'
    cases h.symm.trans h'
    rfl

instance : Subsingleton (Equipped d arrival caches) where
  allEq := by
    rintro ⟨m, _, h⟩ ⟨m', _, h'⟩
    obtain rfl := Subsingleton.elim m m'
    cases h.symm.trans h'
    rfl

instance : Subsingleton (Dispatched d arrival caches) where
  allEq := by
    rintro ⟨m, _, h⟩ ⟨m', _, h'⟩
    obtain rfl := Subsingleton.elim m m'
    cases h.symm.trans h'
    rfl

instance : Subsingleton (Started d arrival caches) where
  allEq := by
    rintro ⟨m, _, _⟩ ⟨m', _, _⟩
    obtain rfl := Subsingleton.elim m m'
    rfl

instance : Subsingleton (Performed d arrival caches) where
  allEq := by
    rintro ⟨m, _, h⟩ ⟨m', _, h'⟩
    obtain rfl := Subsingleton.elim m m'
    cases h.symm.trans h'
    rfl

instance : Subsingleton (Written d arrival caches) where
  allEq := by
    rintro ⟨m, _, h⟩ ⟨m', _, h'⟩
    obtain rfl := Subsingleton.elim m m'
    cases h.symm.trans h'
    rfl

end Uniqueness

variable {d : Deployment} {arrival : Arrival} {caches : Caches} (id : Value)

/-! ## The run at each milestone -/

def Opened.run (m : Opened d) (caches : Caches) : Run :=
  { (Run.initial caches id).add (.consulting .failureCause) with showCause := m.showCause }

/-- The id of an invocation once its event was read. -/
def idOf (id : Value) (e : Event) : Value := if e.requestId.isTruthy then e.requestId else id

def Addressed.run (m : Addressed d arrival) (caches : Caches) : Run :=
  { m.toOpened.run id caches with correlationId := idOf id m.event }

/-- The run after the validator was asked, whatever it said. -/
def Understood.asked (m : Understood d arrival) (caches : Caches) : Run :=
  { (m.toAddressed.run id caches).add (.asked (credentials m.event)) with
    caches := m.afterValidation caches }.addRecords (d.validate (credentials m.event) caches).2.2

def Admitted.run (m : Admitted d arrival caches) : Run := m.toUnderstood.asked id caches

def Noted.run (m : Noted d arrival caches) : Run :=
  ((m.toAdmitted.run id).add (.consulting .accessLog)).addRecords
    (m.shown.toList.map (accessRecord (idOf id m.event) m.query))

/-- The run after a context was asked for, whatever came of it. -/
def Noted.building (m : Noted d arrival caches) : Run :=
  { (m.run id).add (.building m.user m.query) with caches := m.afterBuild }

def Equipped.run (m : Equipped d arrival caches) : Run :=
  { m.toNoted.building id with built := some ⟨m.user, m.query, asSubscribers m.context, none⟩ }

/-- The run after an execution was asked for, whatever came of it. -/
def Equipped.dispatching (m : Equipped d arrival caches) : Run :=
  { ((m.run id).add (.dispatching m.query)).add (.given m.context) with
    caches := m.afterDispatch }

def Dispatched.run (m : Dispatched d arrival caches) : Run :=
  { m.toEquipped.dispatching id with dispatched := true, due := some m.execution }

/-- The context and the loop after a first start. -/
def Dispatched.begun (m : Dispatched d arrival caches) :
    Context Subscriber × Loop Result Subscriber :=
  ((asSubscribers m.context).start .idle theExecution
    ⟨m.hook.1.adds.map .callback, m.hook.1.outcome⟩).2

/-- The run after a first start, however the hook ended. -/
def Dispatched.starting (m : Dispatched d arrival caches) : Run :=
  { ((m.run id).add (.starting theExecution)).add (.hooking theExecution) with
    caches := m.hook.2
    loop := m.begun.2
    built := some ⟨m.user, m.query, m.begun.1, some false⟩ }

def Started.run (m : Started d arrival caches) : Run := m.toDispatched.starting id

/-- The execution of an invocation: how it ended, the callbacks behind the adapter, and the run when
the adapter goes on. -/
def Started.performed (m : Started d arrival caches) :
    Except Failure Result × List CacheEffect × Run :=
  perform m.execution (m.run id)

/-- The response to a result, unless it cannot be made. -/
def Written.response (m : Written d arrival caches) : Except Failure Response :=
  d.enableCompression.map (responseTo m.event.headers m.body)

/-- The run after a response was asked for, whatever came of it. -/
def Written.run (m : Written d arrival caches) : Run :=
  (m.toStarted.performed id).2.2.add (.consulting .compression)

/-! ## The ends of an invocation -/

variable (d arrival caches) in
/-- How an invocation can end. -/
inductive Passage : Course → Prop
  | unopened (f : Failure) : d.showFailureCause = .error f →
      Passage ⟨.error f, [], (Run.initial caches id).add (.consulting .failureCause)⟩
  | rejected (m : Opened d) (x : Form.Rejection) : arrival.read = .error x →
      Passage ⟨.error (malformedEvent x), [], m.run id caches⟩
  | misunderstood (m : Addressed d arrival) (f : Failure) :
      (decodeBody m.event >>= Query.parse) = .error f →
      Passage ⟨.error f, [], m.run id caches⟩
  | refused (m : Understood d arrival) (f : Failure) :
      (d.validate (credentials m.event) caches).1 = .error f →
      Passage ⟨.error (attributed .validationInfrastructure f), [], m.asked id caches⟩
  | unnoted (m : Admitted d arrival caches) (f : Failure) : accessText d m.user = .error f →
      Passage ⟨.error f, [], (m.run id).add (.consulting .accessLog)⟩
  | unequipped (m : Noted d arrival caches) (f : Failure) :
      (d.buildContext m.user m.query (m.afterValidation caches)).1 = .error f →
      Passage ⟨.error f, [], m.building id⟩
  | undispatched (m : Equipped d arrival caches) (f : Failure) :
      (d.dispatch m.user m.query m.context m.afterBuild).1 = .error f →
      Passage ⟨.error f, [], m.dispatching id⟩
  | startedBefore (m : Dispatched d arrival caches) : m.context.stage = .started →
      Passage ⟨.error m.context.alreadyStarted, [], (m.run id).add (.starting theExecution)⟩
  | unstarted (m : Dispatched d arrival caches) (f : Failure) : m.context.stage = .created →
      m.hook.1.outcome = .error f →
      Passage ⟨.error f, [], m.starting id⟩
  | unperformed (m : Started d arrival caches) (f : Failure) :
      (m.execution.run m.hook.2).1 = .error f →
      Passage ⟨.error (attributed .executionFailure f), (m.performed id).2.1, (m.performed id).2.2⟩
  | unwritten (m : Performed d arrival caches) (f : Failure) :
      dumpDocument d.room (Value.object m.result.document) = .error f →
      Passage ⟨.error f, (m.toStarted.performed id).2.1, (m.toStarted.performed id).2.2⟩
  | unanswered (m : Written d arrival caches) (f : Failure) : m.response = .error f →
      Passage ⟨.error f, (m.toStarted.performed id).2.1, m.run id⟩
  | answered (m : Written d arrival caches) (response : Response) : m.response = .ok response →
      Passage ⟨.ok response, (m.toStarted.performed id).2.1,
        (m.run id).add (.record (executedRecord (idOf id m.event) m.query m.result))⟩

/-! ## From one milestone to the next

What a stage does to the run at a milestone, when its collaborator answers and when it fails. -/

theorem Opened.note (m : Opened d) (caches : Caches) :
    (modify fun r => { r with showCause := m.showCause } : Stage PUnit).run
      ((Run.initial caches id).add (.consulting .failureCause)) = (.ok ⟨⟩, m.run id caches) := rfl

theorem Opened.readEvent_error (m : Opened d) (caches : Caches) {x : Form.Rejection}
    (h : arrival.read = .error x) :
    (readEvent arrival).run (m.run id caches) = (.error (malformedEvent x), m.run id caches) := by
  rw [run_readEvent, h]
  rfl

theorem Addressed.readEvent_ok (m : Addressed d arrival) (caches : Caches) :
    (readEvent arrival).run (m.toOpened.run id caches) =
      (.ok m.event, m.toOpened.run id caches) := by
  rw [run_readEvent, m.addressed]
  rfl

theorem Addressed.identify (m : Addressed d arrival) (caches : Caches) :
    (modify fun r => { r with correlationId :=
      if m.event.requestId.isTruthy then m.event.requestId else r.correlationId } :
        Stage PUnit).run (m.toOpened.run id caches) = (.ok ⟨⟩, m.run id caches) := rfl

theorem Understood.authenticate_error (m : Understood d arrival) {f : Failure}
    (h : (d.validate (credentials m.event) caches).1 = .error f) :
    (authenticate d (credentials m.event)).run (m.toAddressed.run id caches) =
      (.error (attributed .validationInfrastructure f), m.asked id caches) := by
  rw [run_authenticate]
  show ((d.validate (credentials m.event) caches).1.mapError _, _) = _
  rw [h]
  rfl

theorem Admitted.authenticate_ok (m : Admitted d arrival caches) :
    (authenticate d (credentials m.event)).run (m.toAddressed.run id caches) =
      (.ok m.user, m.run id) := by
  rw [run_authenticate]
  show ((d.validate (credentials m.event) caches).1.mapError _, _) = _
  rw [m.admitted]
  rfl

theorem Admitted.logAccess_error (m : Admitted d arrival caches) {f : Failure}
    (h : accessText d m.user = .error f) :
    (logAccess d m.query m.user).run (m.run id) =
      (.error f, (m.run id).add (.consulting .accessLog)) := by
  rw [run_logAccess, h]

theorem Noted.logAccess_ok (m : Noted d arrival caches) :
    (logAccess d m.query m.user).run (m.toAdmitted.run id) = (.ok (), m.run id) := by
  rw [run_logAccess, m.noted]
  rfl

theorem Noted.build_error (m : Noted d arrival caches) {f : Failure}
    (h : (d.buildContext m.user m.query (m.afterValidation caches)).1 = .error f) :
    (build d m.query m.user).run (m.run id) = (.error f, m.building id) := by
  have failed : (d.buildContext m.user m.query (m.run id).caches).1 = .error f := h
  rw [run_build, failed]
  rfl

theorem Equipped.build_ok (m : Equipped d arrival caches) :
    (build d m.query m.user).run (m.toNoted.run id) = (.ok m.context, m.run id) := by
  have built : (d.buildContext m.user m.query (m.toNoted.run id).caches).1 = .ok m.context :=
    m.equipped
  rw [run_build, built]
  rfl

theorem Equipped.dispatch_error (m : Equipped d arrival caches) {f : Failure}
    (h : (d.dispatch m.user m.query m.context m.afterBuild).1 = .error f) :
    (dispatch d m.query m.user m.context).run (m.run id) = (.error f, m.dispatching id) := by
  have failed : (d.dispatch m.user m.query m.context (m.run id).caches).1 = .error f := h
  rw [run_dispatch, failed]
  rfl

theorem Dispatched.dispatch_ok (m : Dispatched d arrival caches) :
    (dispatch d m.query m.user m.context).run (m.toEquipped.run id) =
      (.ok m.execution, m.run id) := by
  have handed : (d.dispatch m.user m.query m.context (m.toEquipped.run id).caches).1 =
      .ok m.execution := m.dispatched
  rw [run_dispatch, handed]
  rfl

theorem Dispatched.start_started (m : Dispatched d arrival caches)
    (h : m.context.stage = .started) :
    (start d).run (m.run id) =
      (.error m.context.alreadyStarted, (m.run id).add (.starting theExecution)) := by
  rw [run_start_started d rfl h rfl]
  rfl

theorem Dispatched.start_created (m : Dispatched d arrival caches)
    (h : m.context.stage = .created) :
    (start d).run (m.run id) = (m.hook.1.outcome, m.starting id) := by
  rw [run_start_created d rfl h]
  have created : (asSubscribers m.context).isStarted = false := by
    show decide (m.context.stage = .started) = false
    rw [h]
    rfl
  simp only [runHook, created]
  rfl

theorem Started.start_ok (m : Started d arrival caches) :
    (start d).run (m.toDispatched.run id) = (.ok (), m.run id) := by
  rw [m.start_created id m.created]
  exact congrArg (·, _) m.started

theorem Started.answer_error (m : Started d arrival caches) {f : Failure}
    (h : (m.execution.run m.hook.2).1 = .error f) :
    (answer d ⟨m.event, m.query, m.execution⟩ (m.performed id).1).run (m.performed id).2.2 =
      (.error (attributed .executionFailure f), (m.performed id).2.2) := by
  have outcome : (m.performed id).1 = .error f := h
  rw [run_answer, outcome]

theorem Performed.answer_error (m : Performed d arrival caches) {f : Failure}
    (h : dumpDocument d.room (Value.object m.result.document) = .error f) :
    (answer d ⟨m.event, m.query, m.execution⟩ (m.toStarted.performed id).1).run
      (m.toStarted.performed id).2.2 = (.error f, (m.toStarted.performed id).2.2) := by
  have outcome : (m.toStarted.performed id).1 = .ok m.result := m.performed
  rw [run_answer, outcome]
  simp only [h]

theorem Written.answer (m : Written d arrival caches) :
    (Invocation.answer d ⟨m.event, m.query, m.execution⟩ (m.toStarted.performed id).1).run
      (m.toStarted.performed id).2.2 =
      match m.response with
      | .error f => (.error f, m.run id)
      | .ok response =>
        (.ok response,
          (m.run id).add (.record (executedRecord (idOf id m.event) m.query m.result))) := by
  have outcome : (m.toStarted.performed id).1 = .ok m.result := m.performed
  rw [run_answer, outcome]
  simp only [m.written]
  rfl

/-! ## There is no other end

The stages come in their order: where a collaborator fails the invocation has ended, and where it
answers the next milestone is reached. -/

/-- The ends behind a start. -/
theorem passage_started (m : Started d arrival caches) :
    Passage d arrival caches id
      (let p := m.performed id
        let a := (answer d ⟨m.event, m.query, m.execution⟩ p.1).run p.2.2
        ⟨a.1, p.2.1, a.2⟩) := by
  cases performed : (m.execution.run m.hook.2).1 with
  | error f =>
      simp only [m.answer_error id performed]
      exact .unperformed m f performed
  | ok result =>
      let m : Performed d arrival caches := ⟨m, result, performed⟩
      show Passage d arrival caches id
        ⟨((answer d ⟨m.event, m.query, m.execution⟩ (m.toStarted.performed id).1).run
          (m.toStarted.performed id).2.2).1, _, _⟩
      cases written : dumpDocument d.room (Value.object result.document) with
      | error f =>
          rw [m.answer_error id written]
          exact .unwritten m f written
      | ok body =>
          let m : Written d arrival caches := ⟨m, body, written⟩
          rw [m.answer]
          cases answered : m.response with
          | error f => exact .unanswered m f answered
          | ok response => exact .answered m response answered

variable (d arrival caches) in
theorem course_passage : Passage d arrival caches id (course d arrival id caches) := by
  unfold course prepare
  -- `m` is the last milestone reached; a step either fails behind it or leads to the next one
  cases opened : d.showFailureCause with
  | error f =>
      rw [run_bind_error (run_consult ..)]
      exact .unopened f opened
  | ok showCause =>
  let m : Opened d := ⟨showCause, opened⟩
  rw [run_bind_ok (run_consult ..), run_bind_ok (m.note id caches)]
  cases addressed : arrival.read with
  | error x =>
      rw [run_bind_error (m.readEvent_error id caches addressed)]
      exact .rejected m x addressed
  | ok event =>
  let m : Addressed d arrival := ⟨m, event, addressed⟩
  rw [run_bind_ok (m.readEvent_ok id caches), run_bind_ok (m.identify id caches)]
  cases understood : decodeBody event >>= Query.parse with
  | error f =>
      rw [run_bind_error (run_ofExcept ..)]
      exact .misunderstood m f understood
  | ok query =>
  let m : Understood d arrival := ⟨m, query, understood⟩
  rw [run_bind_ok (run_ofExcept ..)]
  cases admitted : (d.validate (credentials event) caches).1 with
  | error f =>
      rw [run_bind_error (m.authenticate_error id admitted)]
      exact .refused m f admitted
  | ok user =>
  let m : Admitted d arrival caches := ⟨m, user, admitted⟩
  rw [run_bind_ok (m.authenticate_ok id)]
  cases noted : accessText d user with
  | error f =>
      rw [run_bind_error (m.logAccess_error id noted)]
      exact .unnoted m f noted
  | ok shown =>
  let m : Noted d arrival caches := ⟨m, shown, noted⟩
  rw [run_bind_ok (m.logAccess_ok id)]
  cases equipped : (d.buildContext user query (m.afterValidation caches)).1 with
  | error f =>
      rw [run_bind_error (m.build_error id equipped)]
      exact .unequipped m f equipped
  | ok context =>
  let m : Equipped d arrival caches := ⟨m, context, equipped⟩
  rw [run_bind_ok (m.build_ok id)]
  cases dispatched : (d.dispatch user query context m.afterBuild).1 with
  | error f =>
      rw [run_bind_error (m.dispatch_error id dispatched)]
      exact .undispatched m f dispatched
  | ok execution =>
  let m : Dispatched d arrival caches := ⟨m, execution, dispatched⟩
  rw [run_bind_ok (m.dispatch_ok id)]
  cases stage : context.stage with
  | started =>
      rw [run_bind_error (m.start_started id stage)]
      exact .startedBefore m stage
  | created =>
  cases started : m.hook.1.outcome with
  | error f =>
      rw [run_bind_error ((m.start_created id stage).trans (by rw [started]))]
      exact .unstarted m f stage started
  | ok _ =>
      let m : Started d arrival caches := ⟨m, stage, started⟩
      rw [run_bind_ok (m.start_ok id)]
      exact passage_started id m

end QueryGateway.Invocation
