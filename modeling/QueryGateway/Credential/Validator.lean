import QueryGateway.Credential.ApiKey
import QueryGateway.Credential.KeyHash
import QueryGateway.Credential.Token
import QueryGateway.Log.Record

/-!
# Whom a request comes from

A validator holds the stored keys. A request is granted to the owner of the first stored key that its
token verifies against, provided that key is in use; a later key with the same hash never counts.
Every other request is denied, with the reason in the details of the denial. A token of a key that is
not in use leaves a record; the record is not tied to an invocation.
-/

namespace QueryGateway.Credential

structure Validator where
  keys : List ApiKey
deriving DecidableEq, Repr

namespace Validator

def ofRecords : List Members → Except Form.Rejection Validator
  | [] => .ok ⟨[]⟩
  | members :: rest => do
    let key ← ApiKey.ofMembers members
    let v ← ofRecords rest
    .ok ⟨key :: v.keys⟩

def find? (v : Validator) (token : Text) : Option ApiKey :=
  v.keys.find? fun k => verifyKey token k.keyHash

def logger : Text := "src.auth.validators"

def rejectedRecord (k : ApiKey) : Log.Record :=
  ⟨Log.info, logger, "Rejected non-active API key", none,
    [("key_id", .text k.keyId), ("status", .text k.status)], none⟩

def unknownKey : Failure := denied [("reason", .text "Invalid API key")]

def inactiveKey (k : ApiKey) : Failure :=
  denied [("reason", .text ("API key is " ++ k.status)), ("key_id", .text k.keyId)]

def grant (v : Validator) (token : Text) : Except Failure ApiUser × List Log.Record :=
  match v.find? token with
  | none => (.error unknownKey, [])
  | some k =>
    if k.isActive then (.ok ⟨k.userId, k.keyId⟩, [])
    else (.error (inactiveKey k), [rejectedRecord k])

def validate (v : Validator) (authorization : Option Text) :
    Except Failure ApiUser × List Log.Record :=
  match bearerToken authorization with
  | .error f => (.error f, [])
  | .ok token => v.grant token

end Validator

end QueryGateway.Credential
