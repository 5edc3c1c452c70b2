import QueryGateway.Proofs.Invocation.Isolation
import QueryGateway.Proofs.Invocation.Callbacks

/-!
# An invocation in turns

An invocation that shares its loop with others gives way where it waits: for its validator, for its
engine, and for the loop to wake it when the execution has ended. So it takes turns, and between two
of them it stands at a `Station`.

    ahead      not begun
    introduced the query is read, the validator is to be asked
    admitted   the user is known, the context is to be built
    awaiting   the context was started, the engine is to run
    executed   the execution ended, the adapter is to wake
    failed     a stage failed, the failure is to be answered
    gone       answered, cleaned up

A turn is one stage of the invocation, run on the caches as they are by then. The last turn answers
and evicts. Nothing here is a second account of an invocation: the stages are those of the adapter
(`prepare_eq`), and an invocation whose turns nobody interrupts is `handle` (`Call.turns_alone`).

What is NOT here: what the loop has still to do when an invocation has returned. Its callbacks never
run.
-/

namespace QueryGateway.Invocation

/-! ## The stages of a turn -/

/-- What an invocation is about when it asks for its user. -/
structure Introduced where
  event : Event
  query : Query

/-- From the arrival to the query. -/
def introduce (d : Deployment) (arrival : Arrival) : Stage Introduced := do
  let showCause ← consult .failureCause d.showFailureCause
  modify fun r => { r with showCause := showCause }
  let event ← readEvent arrival
  modify fun r =>
    { r with correlationId := if event.requestId.isTruthy then event.requestId else r.correlationId }
  let query ← ofExcept (decodeBody event >>= Query.parse)
  pure ⟨event, query⟩

/-- From the user to the start of the context. -/
def equip (d : Deployment) (a : Introduced) (user : User) : Stage Prepared := do
  logAccess d a.query user
  let context ← build d a.query user
  let execution ← dispatch d a.query user context
  start d
  pure ⟨a.event, a.query, execution⟩

theorem prepare_eq (d : Deployment) (arrival : Arrival) :
    prepare d arrival = introduce d arrival >>= fun a =>
      authenticate d (credentials a.event) >>= equip d a := by
  simp only [prepare, introduce, bind_assoc, pure_bind]
  rfl

/-! ## Stations and turns -/

/-- Where an invocation stands between two of its turns. -/
inductive Station where
  | ahead
  | introduced (a : Introduced) (r : Run)
  | admitted (a : Introduced) (user : User) (r : Run)
  | awaiting (p : Prepared) (r : Run)
  | executed (p : Prepared) (outcome : Except Failure Result) (r : Run)
  | failed (f : Failure) (r : Run)
  | gone (v : Visit)

namespace Station

/-- The station behind a stage that was run on the given caches, and the caches it leaves. -/
def reach {α : Type} (x : Stage α) (next : α → Run → Station) (r : Run) (caches : Caches) :
    Station × Caches :=
  match x.run { r with caches } with
  | (.ok a, r) => (next a r, r.caches)
  | (.error f, r) => (.failed f r, r.caches)

/-- A stage that succeeds and leaves the caches alone leads on. -/
theorem reach_ok {α : Type} {x : Stage α} {r s : Run} {caches : Caches} {a : α}
    (ran : x.run { r with caches } = (.ok a, s)) (kept : s.caches = caches)
    (next : α → Run → Station) : reach x next r caches = (next a s, caches) := by
  rw [reach, ran, ← kept]

/-- The end of the way. -/
def leave (v : Visit) : Station × Caches := (.gone v, v.run.caches)

/-- Whether the invocation is in flight: it has begun, and it has not returned. -/
def inFlight : Station → Bool
  | .ahead | .gone _ => false
  | _ => true

/-- Whether the invocation has returned. -/
def isGone : Station → Bool
  | .gone _ => true
  | _ => false

end Station

namespace Call

/-- One turn of an invocation, on the caches as they are. -/
def turn (c : Call) : Station → Caches → Station × Caches
  | .ahead, caches =>
    Station.reach (introduce c.deployment c.arrival) .introduced
      (.initial caches (initialId c.requestId c.fresh)) caches
  | .introduced a r, caches =>
    Station.reach (authenticate c.deployment (credentials a.event)) (.admitted a) r caches
  | .admitted a user r, caches =>
    Station.reach (equip c.deployment a user) (fun p r => .awaiting p (await r)) r caches
  | .awaiting p r, caches =>
    let (outcome, r) := takeStep p.execution { r with caches }
    (.executed p outcome r, r.caches)
  | .executed p outcome r, caches =>
    let (left, r) := wake { r with caches }
    let (response, r) := (answer c.deployment p outcome).run r
    Station.leave (close c.deployment response left r)
  | .failed f r, caches => Station.leave (close c.deployment (.error f) [] { r with caches })
  | .gone v, caches => (.gone v, caches)

/-- Several turns that nobody interrupts. -/
def turns (c : Call) : Nat → Station × Caches → Station × Caches
  | 0, s => s
  | n + 1, s => c.turns n (c.turn s.1 s.2)

/-! ## Turns that nobody interrupts -/

section
variable {α β : Type} (c : Call)

/-- The invocation from a stage on, given what it comes to if the stage succeeds. -/
def visitFrom (x : Stage α) (next : α → Run → Visit) (r : Run) : Visit :=
  match x.run r with
  | (.ok a, r) => next a r
  | (.error f, r) => close c.deployment (.error f) [] r

theorem visitFrom_bind (x : Stage α) (f : α → Stage β) (next : β → Run → Visit) (r : Run) :
    c.visitFrom (x >>= f) next r = c.visitFrom x (fun a => c.visitFrom (f a) next) r := by
  rw [visitFrom, visitFrom, run_bind]
  rcases x.run r with ⟨_ | _, _⟩ <;> rfl

/-- The invocation when its execution has ended. -/
def visitOf (p : Prepared) (outcome : Except Failure Result) (r : Run) : Visit :=
  let (response, s) := (answer c.deployment p outcome).run (wake r).2
  close c.deployment response (wake r).1 s

theorem visit_eq (caches : Caches) :
    c.visit caches = c.visitFrom (prepare c.deployment c.arrival)
      (fun p r => c.visitOf p (takeStep p.execution (await r)).1 (takeStep p.execution (await r)).2)
      (.initial caches (initialId c.requestId c.fresh)) := by
  rw [visit, handle, course, visitFrom]
  rcases (prepare c.deployment c.arrival).run _ with ⟨_ | _, _⟩ <;> rfl

theorem turns_gone (n : Nat) (v : Visit) (caches : Caches) :
    c.turns n (.gone v, caches) = (.gone v, caches) := by
  induction n with
  | zero => rfl
  | succ n ih => exact ih

theorem turns_executed (n : Nat) (p : Prepared) (outcome : Except Failure Result) (r : Run) :
    c.turns (n + 1) (.executed p outcome r, r.caches) = Station.leave (c.visitOf p outcome r) :=
  c.turns_gone ..

theorem turns_reach {n : Nat} {next : α → Run → Station} {visit : α → Run → Visit}
    (h : ∀ a r, c.turns (n + 1) (next a r, r.caches) = Station.leave (visit a r)) (x : Stage α)
    (r : Run) :
    c.turns (n + 1) (Station.reach x next r r.caches) = Station.leave (c.visitFrom x visit r) := by
  rw [Station.reach, visitFrom]
  rcases x.run r with ⟨f | a, s⟩
  · exact c.turns_gone ..
  · exact h a s

/-- An invocation that nobody interrupts: its turns come to what it is when it is not taken apart.
There are five of them, fewer if a stage fails. -/
theorem turns_alone (n : Nat) (caches : Caches) :
    c.turns (n + 5) (.ahead, caches) = Station.leave (c.visit caches) := by
  rw [visit_eq, prepare_eq, visitFrom_bind]
  refine c.turns_reach (fun a r => ?_) _ (Run.initial caches (initialId c.requestId c.fresh))
  rw [visitFrom_bind]
  refine c.turns_reach (n := n + 2) (fun user r => ?_) _ r
  refine c.turns_reach (n := n + 1) (fun p r => ?_) _ r
  exact c.turns_executed n p (takeStep p.execution (await r)).1 (takeStep p.execution (await r)).2

end

end Call

/-! ## The last turns of an invocation that comes to a result -/

/-- An execution that adds no callbacks and was not asked to end leaves the caches as its own run
does. -/
theorem Call.turn_awaiting {c : Call} {p : Prepared} {caches caches' : Caches} {result : Result}
    (ran : p.execution.run caches = (.ok result, caches', [])) {r : Run}
    (live : r.cancelling = false) :
    ∃ r', c.turn (.awaiting p r) caches = (.executed p (.ok result) r', caches') := by
  unfold turn takeStep
  simp only [live, Bool.false_eq_true, if_false, ran]
  exact ⟨_, rfl⟩

/-- An answer that is made whatever the run is the ending, and the cache is empty behind it. -/
theorem Call.turn_executed {c : Call} {p : Prepared} {outcome : Except Failure Result}
    {response : Response}
    (answers : ∀ r, ((Invocation.answer c.deployment p outcome).run r).1 = .ok response) (r : Run)
    (caches : Caches) :
    ∃ visit caches', c.turn (.executed p outcome r) caches = (.gone visit, caches') ∧
      visit.ending = .answered response ∧ caches' c.deployment.cache = Cache.empty := by
  let visit := c.visitOf p outcome { r with caches }
  have ending : visit.ending = .answered response := by
    show (settle c.deployment ((Invocation.answer c.deployment p outcome).run
      (wake { r with caches }).2).1 _).1 = .answered response
    rw [answers]
    rfl
  exact ⟨visit, visit.run.caches, rfl, ending, evict_empties c.deployment _⟩

/-! ## What a turn can do -/

/-- What a turn can do, to a station and to the cache of the adapter. It enters or goes on within
the invocation; or it is the last one, which empties the cache; or there was nothing left to do. -/
inductive Turned (name : Execution.CacheName) :
    Station × Caches → Station × Caches → Prop
  | on {s s' : Station} {x y : Caches} : s.isGone = false → s'.inFlight = true →
      s'.isGone = false → Turned name (s, x) (s', y)
  | out {s s' : Station} {x y : Caches} : s.inFlight = true → s'.isGone = true →
      y name = Cache.empty → Turned name (s, x) (s', y)
  | still {s : Station} {x : Caches} : s.isGone = true → Turned name (s, x) (s, x)

variable {name : Execution.CacheName}

theorem Station.reach_turned {α : Type} (x : Stage α) {next : α → Run → Station}
    (inside : ∀ a r, (next a r).inFlight = true ∧ (next a r).isGone = false) (r : Run)
    {s : Station} (here : s.isGone = false) (caches : Caches) :
    Turned name (s, caches) (Station.reach x next r caches) := by
  rw [Station.reach]
  rcases x.run { r with caches } with ⟨f | a, r⟩
  · exact .on here rfl rfl
  · exact .on here (inside a r).1 (inside a r).2

theorem Call.turn_turned {c : Call} (uses : c.Uses name) (s : Station) (caches : Caches) :
    Turned name (s, caches) (c.turn s caches) := by
  obtain rfl : c.deployment.cache = name := uses
  cases s with
  | ahead => exact Station.reach_turned _ (fun _ _ => ⟨rfl, rfl⟩) _ rfl caches
  | introduced a r => exact Station.reach_turned _ (fun _ _ => ⟨rfl, rfl⟩) r rfl caches
  | admitted a user r => exact Station.reach_turned _ (fun _ _ => ⟨rfl, rfl⟩) r rfl caches
  | awaiting p r => exact .on rfl rfl rfl
  | executed p outcome r => exact .out rfl rfl (evict_empties c.deployment _)
  | failed f r => exact .out rfl rfl (evict_empties c.deployment _)
  | gone v => exact .still rfl

end QueryGateway.Invocation
