import QueryGateway.Form.Field
import QueryGateway.Json.Write

/-!
# Key records

What is stored about a key: never the key itself, but its hash, whom it belongs to, and whether it is
in use. A key is in use only while its status is exactly "active".
-/

namespace QueryGateway.Credential

structure ApiKey where
  keyId : Text
  keyHash : Text
  userId : Text
  status : Text
  createdAt : Option Text
  description : Option Text
deriving DecidableEq, Repr

def activeStatus : Text := "active"

/-- Whom a request comes from: the user, and the key that was shown. -/
structure ApiUser where
  userId : Text
  keyId : Text
deriving DecidableEq, Repr

namespace ApiKey

def title : Text := "ApiKey"

def isActive (k : ApiKey) : Bool := k.status = activeStatus

open Form in
def ofMembers (members : Members) : Except Rejection ApiKey :=
  titled title <|
    (both (required members ["key_id"] Form.text)
      (both (required members ["key_hash"] Form.text)
        (both (required members ["user_id"] Form.text)
          (both (optional members ["status"] activeStatus Form.text)
            (both (optional members ["created_at"] none Form.optionalText)
              (optional members ["description"] none Form.optionalText)))))).map
    fun (keyId, keyHash, userId, status, createdAt, description) =>
      ⟨keyId, keyHash, userId, status, createdAt, description⟩

def nullable : Option Text → Value
  | some t => .text t
  | none => .null

def members (k : ApiKey) : Members :=
  [("key_id", .text k.keyId), ("key_hash", .text k.keyHash), ("user_id", .text k.userId),
    ("status", .text k.status), ("created_at", nullable k.createdAt),
    ("description", nullable k.description)]

def json (k : ApiKey) : Except Json.WriteFault Text :=
  Json.write Json.Style.envelope (Value.object k.members)

end ApiKey

namespace ApiUser

def title : Text := "ApiUser"

open Form in
def ofMembers (members : Members) : Except Rejection ApiUser :=
  titled title <|
    (both (required members ["user_id"] Form.text) (required members ["key_id"] Form.text)).map
      fun (userId, keyId) => ⟨userId, keyId⟩

def shown (u : ApiUser) : Text := u.userId

end ApiUser

end QueryGateway.Credential
