import QueryGateway.Invocation.Resolution
import QueryGateway.Rehearsal.Plan

/-!
# The schema of rehearsals

A small schema with a field of every temper: `me` tells the user and leaves an entry in the cache,
`echo` gives back its argument, `boom` fails and `secret` is denied.
-/

namespace QueryGateway.Rehearsal

open Execution (CacheName)
open QueryGateway.Graph
open Invocation

def userValue : User → Value
  | .value v => v
  | .owner u => .thing 0 u.shown

def userKey (user : User) : Value := .tuple [.text "user", userValue user]

def resolveMe (cache : CacheName) (user : User) : Resolver Caches := fun _ _ caches =>
  match leaveIn cache [(userKey user, .bool true)] caches with
  | (.ok (), caches) => (.ok (Value.object [("id", userValue user)]), caches)
  | (.error f, caches) => (.error f, caches)

def textType : TypeUse := .named Scalar.string.name

def userType : ObjectDef Caches := ⟨"User", [.member "id" (.required (.named Scalar.id.name))]⟩

def schema (cache : CacheName) (user : User) : Schema Caches where
  root := ⟨"Query", [
    ⟨"me", [], .named userType.name, resolveMe cache user⟩,
    ⟨"echo", [⟨"value", .required textType, none⟩], textType,
      fun _ args caches => (.ok ((args.get? "value").getD .null), caches)⟩,
    ⟨"boom", [], textType,
      fun _ _ caches => (.error (.plain "RuntimeError" "resolver exploded"), caches)⟩,
    ⟨"secret", [], textType, fun _ _ caches => (.error (.standard .accessDenied []), caches)⟩]⟩
  objects := [userType]

def engine (cache : CacheName) : Engine := fun user q _ caches =>
  (.ok (.ofSchema (schema cache user) q), caches)

end QueryGateway.Rehearsal
