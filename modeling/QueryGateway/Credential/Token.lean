import QueryGateway.Failure.Basic
import QueryGateway.Text.Base64
import QueryGateway.Text.Blank
import QueryGateway.Text.Case

/-!
# Bearer tokens

Keys are made from random bytes, as letters that need no escaping anywhere, and travel in the
`Authorization` header behind the word "bearer". Reading the header accepts two words, the first of
them "bearer" in any case, with blanks around and between them, and nothing else.
-/

namespace QueryGateway.Credential

def keyEntropy : Nat := 48

def keyLength : Nat := 64

def generateKey (entropy : Bytes) : Text := (Base64.encode Base64.urlSafe entropy).take keyLength

def denied (details : Members) : Failure := .standard .accessDenied details

def missingHeader : Failure := denied [("reason", .text "Missing Authorization header")]

def malformedHeader : Failure := denied [("reason", .text "Invalid Authorization header format")]

def bearerToken (authorization : Option Text) : Except Failure Text :=
  match authorization with
  | none => .error missingHeader
  | some [] => .error missingHeader
  | some value =>
    match Text.words value with
    | [scheme, token] => if scheme.lower = "bearer" then .ok token else .error malformedHeader
    | _ => .error malformedHeader

end QueryGateway.Credential
