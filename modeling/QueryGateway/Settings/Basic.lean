import QueryGateway.Form.Field
import QueryGateway.Text.Blank

/-!
# Settings

What the operators of a deployment can set: how much is logged, what the deployment is called, the
three switches of an adapter, and the stored keys. Every setting has a standard value, and with all of
these an adapter logs no accesses, compresses nothing and tells nothing about its failures.

A setting is known by one name, whatever the case in which it is written.
-/

namespace QueryGateway

structure Settings where
  logLevel : Text := "INFO"
  apiTitle : Text := "GraphQL Lambda"
  apiVersion : Text := "1.0.0"
  enableAccessLog : Bool := false
  enableCompression : Bool := false
  showFailureCause : Bool := false
  apiKeys : List Members := []
deriving Repr

namespace Settings

def standard : Settings := {}

def title : Text := "Settings"

def apiKeysName : Text := "api_keys"

def names : List Text :=
  ["log_level", "api_title", "api_version", "enable_access_log", "enable_gzip_compression",
    "show_failure_cause", apiKeysName]

open Form in
def records : Nat → List Value → Reading (List Members)
  | _, [] => .ok []
  | n, v :: rest =>
    (both (under (.index n) (table any v)) (records (n + 1) rest)).map fun (r, rs) => r :: rs

open Form in
/-- The stored keys. Null and a blank text are none. -/
def readApiKeys : Value → Reading (List Members)
  | .null => .ok []
  | .list items | .tuple items | .set items => records 0 items
  | .text t => if Text.isBlank t then .ok [] else fail .listKind
  | _ => fail .listKind

open Form in
def ofMembers (members : Members) : Except Rejection Settings :=
  titled title <|
    (both (optional members ["log_level"] standard.logLevel Form.text)
      (both (optional members ["api_title"] standard.apiTitle Form.text)
        (both (optional members ["api_version"] standard.apiVersion Form.text)
          (both (optional members ["enable_access_log"] standard.enableAccessLog Form.bool)
            (both (optional members ["enable_gzip_compression"] standard.enableCompression Form.bool)
              (both (optional members ["show_failure_cause"] standard.showFailureCause Form.bool)
                (optional members [apiKeysName] standard.apiKeys readApiKeys))))))).map
    fun (logLevel, apiTitle, apiVersion, enableAccessLog, enableCompression, showFailureCause,
        apiKeys) =>
      { logLevel, apiTitle, apiVersion, enableAccessLog, enableCompression, showFailureCause,
        apiKeys }

end Settings

end QueryGateway
