import QueryGateway.Execution.Context
import QueryGateway.Failure.Basic
import QueryGateway.Settings.Basic

/-!
# Setting up an adapter

An adapter needs a schema, and is given one or makes one itself. What it is not given otherwise it
takes from elsewhere: the cache of the process, and its switches from the settings.
-/

namespace QueryGateway.Invocation

open Execution (CacheName)

/-- An adapter that is set up: its cache, and its switches unless a deployment decides otherwise. -/
structure Setup where
  cache : CacheName
  enableAccessLog : Bool
  enableCompression : Bool
  showFailureCause : Bool
deriving DecidableEq, Repr

namespace Setup

def noSchema (className : Text) : Failure :=
  .plain "NotImplementedError" (className ++ " must pass a schema or override build_schema()")

/-- An adapter of a class, with a cache of its own or none. -/
def make (className : Text) (hasSchema : Bool) (cache : Option CacheName) (s : Settings) :
    Except Failure Setup :=
  if hasSchema then
    .ok ⟨cache.getD .process, s.enableAccessLog, s.enableCompression, s.showFailureCause⟩
  else .error (noSchema className)

def sharesCache (s : Setup) : Bool := s.cache = .process

end Setup

end QueryGateway.Invocation
