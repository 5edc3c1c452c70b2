import QueryGateway.Invocation.Deployment

/-!
# Rehearsals

A rehearsal runs an adapter without real collaborators. What each of them does is written down in a
plan: the switches, the entries that it leaves in the cache, and how it ends. A plan says nothing
about the engine if queries are to be run in earnest.

What is NOT planned: callbacks. The contexts of a rehearsal have none.
-/

namespace QueryGateway.Rehearsal

open Execution (CacheName Context)
open Invocation

abbrev Entries := List (Value × Value)

inductive Verdict where
  /-- A user for each known header; any other header is denied. -/
  | known (users : List (Text × Value))
  | user (v : Value)
  | fails (f : Failure)
  /-- The stored keys decide; a record that is no key is a failure of the validator. -/
  | keys (records : List Members)

structure ValidatorPlan where
  leaves : Entries
  verdict : Verdict

/-- What the engine does: it may fail before there is an execution, or in it. -/
structure EnginePlan where
  leaves : Entries
  failsAtOnce : Option Failure
  leavesLater : Entries
  outcome : Except Failure Result

/-- What all collaborators do. -/
structure Plan where
  showFailureCause : Except Failure Bool
  enableAccessLog : Except Failure Bool
  enableCompression : Except Failure Bool
  validator : ValidatorPlan
  contextFails : Option Failure
  startFails : Option Failure
  engine : Option EnginePlan

def standardUsers : List (Text × Value) := [("Bearer valid-token", .text "123")]

def outcomeOf (fails : Option Failure) : Except Failure Unit :=
  match fails with
  | some f => .error f
  | none => .ok ()

def leave (entries : Entries) (c : Cache) : Except Failure Unit × Cache :=
  match entries with
  | [] => (.ok (), c)
  | (k, v) :: rest =>
    match c.store k v with
    | .ok c => leave rest c
    | .error f => (.error f, c)

def leaveIn (name : CacheName) (entries : Entries) (caches : Caches) :
    Except Failure Unit × Caches :=
  let (outcome, c) := leave entries (caches name)
  (outcome, caches.set name c)

def Verdict.user? (verdict : Verdict) (authorization : Option Text) :
    Except Failure User × List Log.Record :=
  match verdict with
  | .known users =>
    match authorization.bind fun t => users.find? fun u => u.1 = t with
    | some (_, v) => (.ok (.value v), [])
    | none => (.error (.standard .accessDenied []), [])
  | .user v => (.ok (.value v), [])
  | .fails f => (.error f, [])
  | .keys records =>
    match Credential.Validator.ofRecords records with
    | .error r => (.error (.rejected r), [])
    | .ok validator =>
      let (outcome, logged) := validator.validate authorization
      (outcome.map .owner, logged)

def ValidatorPlan.validate (p : ValidatorPlan) (cache : CacheName) (authorization : Option Text)
    (caches : Caches) : Except Failure User × Caches × List Log.Record :=
  match leaveIn cache p.leaves caches with
  | (.error f, caches) => (.error f, caches, [])
  | (.ok (), caches) =>
    let (outcome, logged) := p.verdict.user? authorization
    (outcome, caches, logged)

def EnginePlan.execution (p : EnginePlan) (cache : CacheName) : PendingExecution where
  run caches :=
    match leaveIn cache p.leavesLater caches with
    | (.error f, caches) => (.error f, caches, [])
    | (.ok (), caches) => (p.outcome, caches, [])

def EnginePlan.dispatch (p : EnginePlan) (cache : CacheName) (caches : Caches) :
    Except Failure PendingExecution × Caches :=
  match leaveIn cache p.leaves caches with
  | (.error f, caches) => (.error f, caches)
  | (.ok (), caches) =>
    match p.failsAtOnce with
    | some f => (.error f, caches)
    | none => (.ok (p.execution cache), caches)

abbrev Engine := User → Query → InvocationContext → Caches → Except Failure PendingExecution × Caches

def Plan.deployment (p : Plan) (cache : CacheName) (engine : Engine) : Deployment where
  cache := cache
  contextName := "TestContext"
  showFailureCause := p.showFailureCause
  enableAccessLog := p.enableAccessLog
  enableCompression := p.enableCompression
  validate := p.validator.validate cache
  buildContext _ _ caches := ((outcomeOf p.contextFails).map fun _ => .new (some cache), caches)
  hook _ _ caches := (⟨[], outcomeOf p.startFails⟩, caches)
  dispatch user q c caches :=
    match p.engine with
    | some e => e.dispatch cache caches
    | none => engine user q c caches

end QueryGateway.Rehearsal
