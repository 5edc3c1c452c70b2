import QueryGateway.Proofs.Invocation.Closing
import QueryGateway.Proofs.Rehearsal.Plan

/-!
# In which order the collaborators are called, and with what

The calls of an invocation are the deeds of its trace that are no records. There is one `script` for
them, and every invocation follows it up to some point and then calls nobody any more.

How far it gets is told by `Follows`: each call more takes a milestone more, so it is made only if
every stage before it has succeeded, and what it hands on is what those stages answered. So nobody
behind a failure is called, and the engine and the context are reached only with a user that the
validator named for the credentials of this very event (`Entitled`).

The calls are read off the run at each milestone; behind the outcome there are only records.
-/

namespace QueryGateway.Invocation

variable {d : Deployment} {arrival : Arrival} {caches : Caches}

/-! ## Calls -/

namespace Deed

/-- Whether a deed is a call of a collaborator. -/
def isCall : Deed → Bool
  | .record _ => false
  | _ => true

/-- Whether a deed is a question to the validator. -/
def isAsking : Deed → Bool
  | .asked _ => true
  | _ => false

/-- Whether a deed asks for a context. -/
def isBuilding : Deed → Bool
  | .building .. => true
  | _ => false

/-- Whether a deed hands something to the engine. -/
def isDispatching : Deed → Bool
  | .dispatching _ | .given _ => true
  | _ => false

end Deed

/-- The calls in a trace. -/
def calls (trace : List Deed) : List Deed := trace.filter Deed.isCall

theorem calls_add (r : Run) {deed : Deed} (h : deed.isCall = true) :
    calls (r.add deed).trace = calls r.trace ++ [deed] := by
  simp only [calls, Run.add, List.filter_append, List.filter_cons_of_pos h, List.filter_nil]

theorem calls_records (trace : List Deed) (records : List Log.Record) :
    calls (trace ++ records.map .record) = calls trace := by
  have none : (records.map Deed.record).filter Deed.isCall = [] := by
    rw [List.filter_eq_nil_iff]
    intro deed h
    obtain ⟨r, -, rfl⟩ := List.mem_map.mp h
    exact Bool.false_ne_true
  rw [calls, List.filter_append, none, List.append_nil, calls]

theorem calls_addRecords (r : Run) (records : List Log.Record) :
    calls (r.addRecords records).trace = calls r.trace :=
  calls_records ..

/-- The calls of an invocation that gets to its end. -/
def script (event : Event) (query : Query) (user : User) (context : InvocationContext) :
    List Deed :=
  [.consulting .failureCause, .asked (credentials event), .consulting .accessLog,
    .building user query, .dispatching query, .given context, .starting theExecution,
    .hooking theExecution, .awaiting theExecution, .running theExecution, .consulting .compression]

variable (d arrival caches) in
/-- The calls of an invocation are a beginning of a script, and one call more takes one milestone
more. -/
inductive Follows : List Deed → Prop
  | opened : Follows [.consulting .failureCause]
  | understood (m : Understood d arrival) (user : User) (context : InvocationContext) :
      Follows ((script m.event m.query user context).take 2)
  | admitted (m : Admitted d arrival caches) (context : InvocationContext) :
      Follows ((script m.event m.query m.user context).take 3)
  | noted (m : Noted d arrival caches) (context : InvocationContext) :
      Follows ((script m.event m.query m.user context).take 4)
  | equipped (m : Equipped d arrival caches) :
      Follows ((script m.event m.query m.user m.context).take 6)
  | dispatched (m : Dispatched d arrival caches) :
      Follows ((script m.event m.query m.user m.context).take 7)
  | created (m : Dispatched d arrival caches) : m.context.stage = .created →
      Follows ((script m.event m.query m.user m.context).take 8)
  | started (m : Started d arrival caches) :
      Follows ((script m.event m.query m.user m.context).take 10)
  | written (m : Written d arrival caches) :
      Follows (script m.event m.query m.user m.context)

/-! ## The calls at the milestones -/

section Milestones
variable (id : Value)

theorem Understood.calls_eq (m : Understood d arrival) (caches : Caches) (user : User)
    (context : InvocationContext) :
    calls (m.asked id caches).trace = (script m.event m.query user context).take 2 :=
  calls_addRecords ..

theorem Admitted.calls_eq (m : Admitted d arrival caches) (context : InvocationContext) :
    calls ((m.run id).add (.consulting .accessLog)).trace =
      (script m.event m.query m.user context).take 3 := by
  rw [calls_add _ rfl, run, m.toUnderstood.calls_eq id caches m.user context]
  rfl

theorem Noted.calls_eq (m : Noted d arrival caches) (context : InvocationContext) :
    calls (m.building id).trace = (script m.event m.query m.user context).take 4 := by
  show calls ((m.run id).add _).trace = _
  rw [calls_add _ rfl, run, calls_addRecords, m.toAdmitted.calls_eq id context]
  rfl

theorem Equipped.calls_eq (m : Equipped d arrival caches) :
    calls (m.dispatching id).trace = (script m.event m.query m.user m.context).take 6 := by
  show calls (((m.run id).add _).add _).trace = _
  rw [calls_add _ rfl, calls_add _ rfl]
  show calls (m.toNoted.building id).trace ++ _ ++ _ = _
  rw [m.toNoted.calls_eq id m.context]
  rfl

theorem Dispatched.calls_start (m : Dispatched d arrival caches) :
    calls ((m.run id).add (.starting theExecution)).trace =
      (script m.event m.query m.user m.context).take 7 := by
  rw [calls_add _ rfl]
  show calls (m.toEquipped.dispatching id).trace ++ _ = _
  rw [m.toEquipped.calls_eq id]
  rfl

theorem Dispatched.calls_hook (m : Dispatched d arrival caches) :
    calls (m.starting id).trace = (script m.event m.query m.user m.context).take 8 := by
  show calls (((m.run id).add (.starting theExecution)).add _).trace = _
  rw [calls_add _ rfl, m.calls_start]
  rfl

theorem Started.calls_eq (m : Started d arrival caches) :
    calls (m.performed id).2.2.trace = (script m.event m.query m.user m.context).take 10 := by
  show calls (((m.toDispatched.starting id).add (.awaiting theExecution)).add
    (.running theExecution)).trace = _
  rw [calls_add _ rfl, calls_add _ rfl, m.toDispatched.calls_hook]
  rfl

theorem Written.calls_eq (m : Written d arrival caches) :
    calls (m.run id).trace = script m.event m.query m.user m.context := by
  rw [run, calls_add _ rfl, m.toStarted.calls_eq id]
  rfl

end Milestones

/-! ## Whole invocations -/

theorem Passage.follows {id : Value} {c : Course} (p : Passage d arrival caches id c) :
    Follows d arrival caches (calls c.run.trace) := by
  cases p with
  | unopened | rejected | misunderstood => exact .opened
  | refused m =>
      rw [m.calls_eq id caches (.value .null) (.new none)]
      exact .understood m _ _
  | unnoted m =>
      rw [m.calls_eq id (.new none)]
      exact .admitted m _
  | unequipped m =>
      rw [m.calls_eq id (.new none)]
      exact .noted m _
  | undispatched m =>
      rw [m.calls_eq id]
      exact .equipped m
  | startedBefore m =>
      rw [m.calls_start id]
      exact .dispatched m
  | unstarted m f created =>
      rw [m.calls_hook id]
      exact .created m created
  | unperformed m =>
      rw [m.calls_eq id]
      exact .started m
  | unwritten m =>
      rw [m.toStarted.calls_eq id]
      exact .started m.toStarted
  | unanswered m =>
      rw [m.calls_eq id]
      exact .written m
  | answered m =>
      show Follows d arrival caches (calls (_ ++ [_].map Deed.record))
      rw [calls_records, m.calls_eq id]
      exact .written m

theorem handle_follows (requestId : Value) (fresh : Text) :
    Follows d arrival caches (calls (handle d arrival requestId fresh caches).run.trace) := by
  rw [handle_trace, calls_records]
  exact (course_passage d arrival caches _).follows

/-- Whoever looks for some kind of call finds it among the calls. -/
theorem filter_calls {p : Deed → Bool} (h : ∀ r, p (.record r) = false) (trace : List Deed) :
    trace.filter p = (calls trace).filter p := by
  rw [calls, List.filter_filter]
  refine List.filter_congr fun deed _ => ?_
  cases deed with
  | record r => rw [h r, Bool.false_and]
  | _ => exact (Bool.and_true _).symm

variable (d arrival caches) in
/-- What must have happened when a context or an execution is asked for: the one question to the
validator, for the credentials of the event, named a user, and this user and the query of the event
are all that is handed on. -/
def Entitled (trace : List Deed) : Prop :=
  ∃ event query user,
    arrival.read = .ok event ∧
    (decodeBody event >>= Query.parse) = .ok query ∧
    (d.validate (event.headers.get? Http.authorization) caches).1 = .ok user ∧
    trace.filter Deed.isAsking = [.asked (event.headers.get? Http.authorization)] ∧
    trace.filter Deed.isBuilding = [.building user query] ∧
    (trace.filter Deed.isDispatching = [] ∨
      ∃ context,
        (d.buildContext user query
          (d.validate (event.headers.get? Http.authorization) caches).2.1).1 = .ok context ∧
        trace.filter Deed.isDispatching = [.dispatching query, .given context])

theorem Equipped.entitled (m : Equipped d arrival caches) {cs : List Deed}
    (asked : cs.filter Deed.isAsking = [.asked (credentials m.event)])
    (built : cs.filter Deed.isBuilding = [.building m.user m.query])
    (handed : cs.filter Deed.isDispatching = [.dispatching m.query, .given m.context]) :
    Entitled d arrival caches cs :=
  ⟨m.event, m.query, m.user, m.addressed, m.understood, m.admitted, asked, built,
    .inr ⟨m.context, m.equipped, handed⟩⟩

theorem Follows.entitled {cs : List Deed} (follows : Follows d arrival caches cs) {deed : Deed}
    (mem : deed ∈ cs) (h : deed.isBuilding || deed.isDispatching) :
    Entitled d arrival caches cs := by
  cases follows with
  | opened =>
      rw [List.mem_singleton.mp mem] at h
      cases h
  | understood m user context =>
      simp only [script, List.take_succ_cons, List.take_zero, List.mem_cons, List.not_mem_nil,
        or_false] at mem
      rcases mem with rfl | rfl <;> cases h
  | admitted m context =>
      simp only [script, List.take_succ_cons, List.take_zero, List.mem_cons, List.not_mem_nil,
        or_false] at mem
      rcases mem with rfl | rfl | rfl <;> cases h
  | noted m context =>
      exact ⟨m.event, m.query, m.user, m.addressed, m.understood, m.admitted, rfl, rfl, .inl rfl⟩
  | equipped m => exact m.entitled rfl rfl rfl
  | dispatched m => exact m.toEquipped.entitled rfl rfl rfl
  | created m => exact m.toEquipped.entitled rfl rfl rfl
  | started m => exact m.toEquipped.entitled rfl rfl rfl
  | written m => exact m.toEquipped.entitled rfl rfl rfl

variable (d arrival caches) in
/-- No invocation asks for a context or an execution before a user was named, nothing is mixed up on
the way, and where a stage fails the calls end. -/
theorem no_execution_without_user (requestId : Value) (fresh : Text) :
    let trace := (handle d arrival requestId fresh caches).run.trace
    (∀ deed ∈ trace, deed.isBuilding || deed.isDispatching → Entitled d arrival caches trace) ∧
      Follows d arrival caches (calls trace) := by
  intro trace
  have follows : Follows d arrival caches (calls trace) := handle_follows requestId fresh
  refine ⟨fun deed mem h => ?_, follows⟩
  have call : deed ∈ calls trace := by
    refine List.mem_filter.mpr ⟨mem, ?_⟩
    cases deed with
    | record r => cases h
    | _ => rfl
  obtain ⟨event, query, user, entitled⟩ := follows.entitled call h
  refine ⟨event, query, user, ?_⟩
  rw [filter_calls (p := Deed.isAsking) fun _ => rfl,
    filter_calls (p := Deed.isBuilding) fun _ => rfl,
    filter_calls (p := Deed.isDispatching) fun _ => rfl]
  exact entitled

open Rehearsal in
/-- The engine of a rehearsal is reached, with the user that its validator named. -/
theorem no_execution_without_user_dispatched :
    let trace :=
      (handle (cachingDeployment none) (.event helloEvent) .null "id" Caches.empty).run.trace
    trace.any Deed.isDispatching = true ∧
      Entitled (cachingDeployment none) (.event helloEvent) Caches.empty trace := by
  intro trace
  have reached : trace.any Deed.isDispatching = true := by decide +kernel
  obtain ⟨deed, mem, h⟩ := List.any_eq_true.mp reached
  obtain ⟨entitled, -⟩ :=
    no_execution_without_user (cachingDeployment none) (.event helloEvent) Caches.empty .null "id"
  exact ⟨reached, entitled deed mem (by rw [h, Bool.or_true])⟩

end QueryGateway.Invocation
