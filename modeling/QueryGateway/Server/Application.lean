import QueryGateway.Invocation.Adapter
import QueryGateway.Server.Message
import QueryGateway.Settings.Basic

/-!
# The local server

A server for trying out a deployment. `POST /graphql` runs the request through the adapter, exactly as
if it had come by way of a gateway, and `GET /status` tells how the server is doing. The number of
entries in the cache is part of that: between requests there should be none. A path with slashes at
its end leads to the one without them.
-/

namespace QueryGateway.Server

open Invocation (Caches Deployment Visit)

/-- A server: what it is called, and the deployment behind it. -/
structure Application where
  title : Text
  version : Text
  deployment : Deployment

def Application.ofSettings (s : Settings) (d : Deployment) : Application := ⟨s.apiTitle, s.apiVersion, d⟩

inductive Route where
  | graphql
  | status
deriving DecidableEq, Repr

namespace Route

def path : Route → Text
  | .graphql => "/graphql"
  | .status => "/status"

def method : Route → Text
  | .graphql => "POST"
  | .status => "GET"

def at? (t : Text) : Option Route := [Route.graphql, .status].find? fun r => r.path = t

def beforeSlashes? (t : Text) : Option Route :=
  let slash := CodePoint.ofChar '/'
  if t.getLast? = some slash then at? (t.reverse.dropWhile fun c => c = slash).reverse else none

end Route

/-- What came of a request: the reply, or the failure that escaped; the visit if the adapter was
invoked; and the caches. -/
structure Exchange where
  reply : Except Failure Reply
  visit : Option Visit
  caches : Caches

def Exchange.json (status : Int) (headers : Http.Headers) (members : Members) (caches : Caches) :
    Exchange :=
  ⟨Reply.json status headers members, none, caches⟩

def Exchange.refused (status : Int) (headers : Http.Headers) (reason : Text) (caches : Caches) :
    Exchange :=
  .json status headers [("detail", .text reason)] caches

def Exchange.ofVisit (v : Visit) : Exchange :=
  let reply := match v.ending with
    | .answered r => Reply.ofResponse r
    | .escaped f => .error f
  ⟨reply, some v, v.settledCaches⟩

namespace Application

def statusMembers (a : Application) (uptimeSeconds : Nat) (caches : Caches) : Members :=
  [("status", .text "ok"), ("version", .text a.version), ("uptime_seconds", .int uptimeSeconds),
    ("invocation_cache_entries", .int (caches a.deployment.cache).size)]

/-- What comes of a request that was made so many milliseconds after the start. `fresh` is an id that
nobody else has. -/
def serve (a : Application) (uptime : Nat) (fresh : Text) (r : Request) (caches : Caches) :
    Exchange :=
  match Route.at? r.path with
  | none =>
    match Route.beforeSlashes? r.path with
    | some route => ⟨.ok (.moved (r.location route.path)), none, caches⟩
    | none => .refused 404 [] "Not Found" caches
  | some route =>
    if r.method ≠ route.method then
      .refused 405 [("allow", route.method)] "Method Not Allowed" caches
    else
      match route with
      | .graphql => .ofVisit (Invocation.handle a.deployment (.event r.event) .null fresh caches)
      | .status => .json 200 [] (a.statusMembers (uptime / 1000) caches) caches

end Application

end QueryGateway.Server
