import QueryGateway.Proofs.Invocation.Closing
import QueryGateway.Proofs.Rehearsal.Plan

/-!
# One invocation learns nothing of another

The cache of an adapter is where an invocation could meet an earlier one. It is emptied on every
way out (`handle_evicts`), and the verdict of an invocation depends on no other cache, as long as
its collaborators look at no other (`Confined.verdict_eq`, two invocations side by side). Together:
after any history, an invocation ends as it would end on an adapter that was never used.

`Confined` is the assumption on the collaborators: what they answer and what they leave in the cache
of the adapter is a function of their arguments and of that cache. They may write to other caches,
and read them if this changes nothing.

What is NOT here: callbacks that run after an invocation has returned. A history goes from the
caches of one return to the next call.
-/

namespace QueryGateway

namespace Invocation

open Execution (CacheName)

/-! ## Eviction -/

theorem handle_evicts (d : Deployment) (arrival : Arrival) (requestId : Value) (fresh : Text)
    (caches : Caches) :
    (handle d arrival requestId fresh caches).run.caches d.cache = Cache.empty :=
  evict_empties d _

/-! ## Two invocations side by side -/

/-- The collaborators of a deployment look at no cache but that of the adapter. -/
structure Confined (d : Deployment) : Prop where
  validates : ∀ a {x y : Caches}, x d.cache = y d.cache →
    (d.validate a x).1 = (d.validate a y).1 ∧
      (d.validate a x).2.1 d.cache = (d.validate a y).2.1 d.cache
  builds : ∀ user q {x y : Caches}, x d.cache = y d.cache →
    (d.buildContext user q x).1 = (d.buildContext user q y).1 ∧
      (d.buildContext user q x).2 d.cache = (d.buildContext user q y).2 d.cache
  dispatches : ∀ user q c {x y : Caches}, x d.cache = y d.cache →
    (d.dispatch user q c x).1 = (d.dispatch user q c y).1 ∧
      (d.dispatch user q c x).2 d.cache = (d.dispatch user q c y).2 d.cache
  hooks : ∀ user q {x y : Caches}, x d.cache = y d.cache →
    (d.hook user q x).1.outcome = (d.hook user q y).1.outcome ∧
      (d.hook user q x).2 d.cache = (d.hook user q y).2 d.cache
  executes : ∀ user q c {e x}, (d.dispatch user q c x).1 = .ok e →
    ∀ {y z : Caches}, y d.cache = z d.cache → (e.run y).1 = (e.run z).1

/-- Caches that agree at the adapter's own lead to the same verdict. The agreement is what every
collaborator hands on to the next. -/
theorem Confined.verdict_eq {d : Deployment} (confined : Confined d) (arrival : Arrival)
    {x y : Caches} (agree : x d.cache = y d.cache) :
    verdict d arrival x = verdict d arrival y := by
  unfold verdict
  refine Except.bind_eq_of_ok fun _ _ => ?_
  refine Except.bind_eq_of_ok fun event _ => ?_
  refine Except.bind_eq_of_ok fun query _ => ?_
  obtain ⟨validated, agree⟩ := confined.validates (credentials event) agree
  simp only [validated]
  refine Except.bind_eq_of_ok fun user _ => Except.bind_eq_of_ok fun _ _ => ?_
  obtain ⟨built, agree⟩ := confined.builds user query agree
  simp only [built]
  refine Except.bind_eq_of_ok fun context _ => ?_
  obtain ⟨dispatched, agree⟩ := confined.dispatches user query context agree
  simp only [dispatched]
  refine Except.bind_eq_of_ok fun execution handed => ?_
  obtain ⟨hooked, agree⟩ := confined.hooks user query agree
  simp only [hooked]
  refine Except.bind_eq_of_ok fun _ _ => ?_
  rw [confined.executes user query context handed agree]

/-! ## Rehearsed collaborators are confined -/

theorem confined_rehearsal {p : Rehearsal.Plan} {e : Rehearsal.EnginePlan} (h : p.engine = some e)
    (name : CacheName) (engine : Rehearsal.Engine) : Confined (p.deployment name engine) where
  validates a _ _ agree := p.validator.validate_agree a agree
  builds _ _ _ _ agree := ⟨rfl, agree⟩
  dispatches _ _ _ _ _ agree := by
    simp only [Rehearsal.Plan.deployment, h]
    exact e.dispatch_agree agree
  hooks _ _ _ _ agree := ⟨rfl, agree⟩
  executes _ _ _ _ _ handed _ _ agree := by
    simp only [Rehearsal.Plan.deployment, h] at handed
    rw [e.dispatch_ok handed]
    exact e.execution_agree agree

/-! ## Histories -/

/-- A call of an adapter, with the collaborators as they are at that time. -/
structure Call where
  deployment : Deployment
  arrival : Arrival
  requestId : Value
  fresh : Text

/-- The invocation that a call makes. -/
def Call.visit (c : Call) (caches : Caches) : Visit :=
  handle c.deployment c.arrival c.requestId c.fresh caches

/-- The invocations of calls, each on the caches that were there when the one before returned. -/
def visits : List Call → Caches → List Visit
  | [], _ => []
  | c :: rest, caches => c.visit caches :: visits rest (c.visit caches).run.caches

/-- The caches when the last of several calls has returned. -/
def cachesAfter : List Call → Caches → Caches
  | [], caches => caches
  | c :: rest, caches => cachesAfter rest (c.visit caches).run.caches

/-- A call uses the adapter with a given cache. -/
def Call.Uses (name : CacheName) (c : Call) : Prop := c.deployment.cache = name

variable {name : CacheName}

theorem Call.visit_evicts {c : Call} (h : c.Uses name) (caches : Caches) :
    (c.visit caches).run.caches name = Cache.empty := by
  rw [← show c.deployment.cache = name from h]
  exact handle_evicts ..

theorem Call.ending_eq {c : Call} (h : c.Uses name) (confined : Confined c.deployment)
    {x y : Caches} (agree : x name = y name) : (c.visit x).ending = (c.visit y).ending := by
  rw [visit, visit, handle_ending, handle_ending, confined.verdict_eq]
  rw [show c.deployment.cache = name from h]
  exact agree

theorem visits_evict {calls : List Call} (h : ∀ c ∈ calls, c.Uses name) (start : Caches) :
    ∀ v ∈ visits calls start, v.run.caches name = Cache.empty := by
  induction calls generalizing start with
  | nil => exact fun v hv => nomatch hv
  | cons c rest ih =>
      intro v hv
      rcases List.mem_cons.mp hv with rfl | hv
      · exact Call.visit_evicts (h c List.mem_cons_self) start
      · exact ih (fun c hc => h c (List.mem_cons_of_mem _ hc)) _ v hv

theorem cachesAfter_empty {calls : List Call} (h : ∀ c ∈ calls, c.Uses name) {start : Caches}
    (begun : calls ≠ [] ∨ start name = Cache.empty) :
    cachesAfter calls start name = Cache.empty := by
  induction calls generalizing start with
  | nil => exact begun.resolve_left (· rfl)
  | cons c rest ih =>
      exact ih (fun c hc => h c (List.mem_cons_of_mem _ hc))
        (.inr (Call.visit_evicts (h c List.mem_cons_self) start))

/-- Every invocation of an adapter returns with its cache empty, and after any history the next one
ends as it would on an adapter with an empty cache. -/
theorem history_leaves_nothing {calls : List Call} (uses : ∀ c ∈ calls, c.Uses name)
    (start : Caches) :
    (∀ v ∈ visits calls start, v.run.caches name = Cache.empty) ∧
      ∀ next : Call, next.Uses name → Confined next.deployment →
        calls ≠ [] ∨ start name = Cache.empty →
        ∀ unused : Caches, unused name = Cache.empty →
          (next.visit (cachesAfter calls start)).ending = (next.visit unused).ending := by
  refine ⟨visits_evict uses start, ?_⟩
  intro next here confined begun unused empty
  have after : cachesAfter calls start name = Cache.empty := cachesAfter_empty uses begun
  exact next.ending_eq here confined (after.trans empty.symm)

open Rehearsal in
/-- A first call leaves entries and fails at the start; the second one does not see them. -/
theorem history_leaves_nothing_failedStart :
    let failing : Call :=
      ⟨cachingDeployment (some (.plain "RuntimeError" "no")), .event helloEvent, .null, "first"⟩
    let next : Call := ⟨cachingDeployment none, .event helloEvent, .null, "second"⟩
    (course failing.deployment failing.arrival .null Caches.empty).run.caches (.own 0)
        ≠ Cache.empty ∧
      (∀ v ∈ visits [failing] Caches.empty, v.run.caches (.own 0) = Cache.empty) ∧
      (next.visit (cachesAfter [failing] Caches.empty)).ending =
        (next.visit Caches.empty).ending := by
  intro failing next
  have uses : ∀ c ∈ [failing], c.Uses (.own 0) := by
    intro c hc
    rw [List.mem_singleton.mp hc]
    rfl
  obtain ⟨evicted, alike⟩ := history_leaves_nothing uses Caches.empty
  refine ⟨?_, evicted, ?_⟩
  · have filled : ((course failing.deployment failing.arrival .null Caches.empty).run.caches
        (.own 0)).nonempty = true := by decide +kernel
    intro empty
    rw [empty] at filled
    cases filled
  · have confined : Confined next.deployment := confined_rehearsal rfl (.own 0) noEngine
    exact alike next rfl confined (.inl (List.cons_ne_nil _ _)) _ rfl

end Invocation

end QueryGateway
