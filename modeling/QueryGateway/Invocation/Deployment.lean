import QueryGateway.Cache.Basic
import QueryGateway.Credential.Validator
import QueryGateway.Execution.Context
import QueryGateway.Invocation.Query
import QueryGateway.Invocation.Result

/-!
# Deployments

What a deployment supplies: switches, a validator, the text by which users are recorded, contexts with
a hook, and the engine that executes queries. Each of these is a function of what it is given and of
the caches, so whatever a collaborator does, it answers the same when it is asked the same: it may
read and change the caches, leave records, and end with any failure instead of a result.

A `PendingExecution` is what the engine hands out before it runs. Running it gives the outcome, the caches
afterwards, and the callbacks that were added to it meanwhile.
-/

namespace QueryGateway.Invocation

open Execution (CacheName Context)

abbrev Caches := CacheName → Cache

namespace Caches

def empty : Caches := fun _ => Cache.empty

def set (cs : Caches) (name : CacheName) (c : Cache) : Caches :=
  fun n => if n = name then c else cs n

end Caches

/-- Whom a request comes from: whatever the validator says, or the owner of a key. -/
inductive User where
  | value (v : Value)
  | owner (u : Credential.ApiUser)
deriving Repr

def User.shown : User → Text
  | .value v => v.shown
  | .owner u => u.shown

abbrev CacheEffect := Caches → Caches

/-- The context of an invocation; its callbacks may change the caches. -/
abbrev InvocationContext := Context CacheEffect

/-- An execution that was handed out and has not run. -/
structure PendingExecution where
  run : Caches → Except Failure Result × Caches × List CacheEffect

/-- About what the usual limit of a thousand calls inside one another leaves to the document of a
result. -/
def usualRoom : Json.Room := some 900

/-- The room for the document of a denial: two more calls are under way when it is written. -/
def denialRoom (room : Json.Room) : Json.Room := room.map (· - 2)

theorem usualRoom_roomy : Json.within (denialRoom usualRoom) 4 = true := rfl

/-- The collaborators of an adapter. -/
structure Deployment where
  cache : CacheName
  contextName : Text
  room : Json.Room := usualRoom
  /-- The document of a denial has four levels if its message and its code are texts. -/
  roomy : Json.within (denialRoom room) 4 = true := by exact usualRoom_roomy
  showFailureCause : Except Failure Bool
  enableAccessLog : Except Failure Bool
  enableCompression : Except Failure Bool
  validate : Option Text → Caches → Except Failure User × Caches × List Log.Record
  userText : User → Except Failure Text := fun user => .ok user.shown
  buildContext : User → Query → Caches → Except Failure InvocationContext × Caches
  hook : User → Query → Caches → Context.Hook CacheEffect × Caches
  dispatch : User → Query → InvocationContext → Caches → Except Failure PendingExecution × Caches

end QueryGateway.Invocation
