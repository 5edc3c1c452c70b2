import QueryGateway.Invocation.Resolution
import QueryGateway.Settings.Basic

/-!
# The sample deployment

A deployment with one query, `me`, which tells the owner of a key who he is. It uses the cache of the
process: the profile of a user is made once and found there until the invocation ends.
-/

namespace QueryGateway.Sample

open Credential (ApiUser Validator)
open Execution (CacheName)
open QueryGateway.Graph
open Invocation

def cache : CacheName := .process

def profileKey (u : ApiUser) : Value := .tuple [.text "profile", .text u.userId]

def profile (u : ApiUser) : Value := Value.object [("id", .text u.userId), ("keyId", .text u.keyId)]

def loadProfile (u : ApiUser) (caches : Caches) : Except Failure Value × Caches :=
  let (_, outcome, c) := (caches cache).getOrMake (profileKey u) fun c => (.ok (profile u), c)
  (outcome, caches.set cache c)

/-- Whoever is let in owns a key; nobody else has a profile. -/
def resolveMe (user : User) : Resolver Caches := fun _ _ caches =>
  match user with
  | .owner u => loadProfile u caches
  | .value _ => (.ok .null, caches)

def userType : ObjectDef Caches :=
  ⟨"User", [.member "id" (.required (.named Scalar.id.name)),
    .member "keyId" (.named Scalar.string.name)]⟩

def schema (user : User) : Schema Caches where
  root := ⟨"Query", [⟨"me", [], .named userType.name, resolveMe user⟩]⟩
  objects := [userType]

def deployment (s : Settings) (validator : Validator) : Deployment where
  cache := cache
  contextName := "SampleContext"
  showFailureCause := .ok s.showFailureCause
  enableAccessLog := .ok s.enableAccessLog
  enableCompression := .ok s.enableCompression
  validate authorization caches :=
    let (outcome, records) := validator.validate authorization
    (outcome.map .owner, caches, records)
  buildContext _ _ caches := (.ok (.new (some cache)), caches)
  hook _ _ caches := (⟨[], .ok ()⟩, caches)
  dispatch user q _ caches := (.ok (.ofSchema (schema user) q), caches)

def ofSettings (s : Settings) : Except Form.Rejection Deployment :=
  (Validator.ofRecords s.apiKeys).map (deployment s)

end QueryGateway.Sample
