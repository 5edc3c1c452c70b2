import QueryGateway.Invocation.Event
import QueryGateway.Rehearsal.Plan

/-!
# What rehearsed collaborators do to the caches

The collaborators of a rehearsal use one cache, by `leaveIn`, and what comes of it depends on that
cache alone. So does the outcome of each of them. At the end stand plans on which later modules try
their theorems.
-/

namespace QueryGateway.Rehearsal

open Execution (CacheName)
open Invocation

variable {name : CacheName} {x y : Caches}

theorem leaveIn_agree (agree : x name = y name) (entries : Entries) :
    ∃ outcome u v, leaveIn name entries x = (outcome, u) ∧ leaveIn name entries y = (outcome, v) ∧
      u name = v name := by
  refine ⟨(leave entries (x name)).1, x.set name (leave entries (x name)).2,
    y.set name (leave entries (x name)).2, rfl, ?_, ?_⟩
  · rw [agree]
    rfl
  · rw [Caches.set, Caches.set, if_pos rfl, if_pos rfl]

theorem ValidatorPlan.validate_agree (p : ValidatorPlan) (authorization : Option Text)
    (agree : x name = y name) :
    (p.validate name authorization x).1 = (p.validate name authorization y).1 ∧
      (p.validate name authorization x).2.1 name = (p.validate name authorization y).2.1 name := by
  obtain ⟨outcome, u, v, hu, hv, agree⟩ := leaveIn_agree agree p.leaves
  rw [validate, validate, hu, hv]
  cases outcome <;> exact ⟨rfl, agree⟩

theorem EnginePlan.dispatch_agree (p : EnginePlan) (agree : x name = y name) :
    (p.dispatch name x).1 = (p.dispatch name y).1 ∧
      (p.dispatch name x).2 name = (p.dispatch name y).2 name := by
  obtain ⟨outcome, u, v, hu, hv, agree⟩ := leaveIn_agree agree p.leaves
  rw [dispatch, dispatch, hu, hv]
  cases outcome with
  | error f => exact ⟨rfl, agree⟩
  | ok _ => cases p.failsAtOnce <;> exact ⟨rfl, agree⟩

theorem EnginePlan.dispatch_ok (p : EnginePlan) {e : PendingExecution}
    (h : (p.dispatch name x).1 = .ok e) : e = p.execution name := by
  unfold dispatch at h
  split at h
  · cases h
  · cases hf : p.failsAtOnce <;> simp only [hf] at h <;> cases h
    rfl

theorem EnginePlan.execution_agree (p : EnginePlan) (agree : x name = y name) :
    ((p.execution name).run x).1 = ((p.execution name).run y).1 := by
  obtain ⟨outcome, u, v, hu, hv, -⟩ := leaveIn_agree agree p.leavesLater
  simp only [execution, hu, hv]
  cases outcome <;> rfl

/-- A plan in which every collaborator that can leaves an entry in the cache, and nothing fails but
perhaps the hook. -/
def Plan.caching (startFails : Option Failure) : Plan where
  showFailureCause := .ok true
  enableAccessLog := .ok true
  enableCompression := .ok true
  validator := ⟨[(.text "session", .int 1)], .user (.text "123")⟩
  contextFails := none
  startFails := startFails
  engine := some
    { leaves := [(.text "asked", .bool true)]
      failsAtOnce := none
      leavesLater := [(.text "loaded", .int 7)]
      outcome := .ok ⟨Value.object [("hello", .text "world")], none, .null⟩ }

/-- An engine that is not there. -/
def noEngine : Engine := fun _ _ _ caches => (.error (.plain "RuntimeError" "no engine"), caches)

/-- The deployment of such a plan, on a cache of its own. -/
def cachingDeployment (startFails : Option Failure) : Deployment :=
  (Plan.caching startFails).deployment (.own 0) noEngine

/-- An event with a query and credentials. -/
def helloEvent : Event :=
  ⟨some "\x7b\"query\": \"\x7b hello \x7d\"\x7d", [("Authorization", "Bearer valid-token")],
    false, []⟩

/-- A result without data, with two errors and with extensions. -/
def report : Result :=
  ⟨.null, some [.ofMessage "é", .ofMessage "late"], Value.object [("n", .int 1)]⟩

end QueryGateway.Rehearsal
