import QueryGateway.Credential.Blowfish
import QueryGateway.Failure.Encoding
import QueryGateway.Text.Base64

/-!
# Hashes of keys

A stored hash is a text of three fields, each after a dollar sign: the version, the cost in two
digits, and the salt with the digest, in letters of an alphabet of its own. The text of a salt is the
same without the digest.

A key is verified by hashing it again with the salt of the stored hash: the two must be the same,
byte by byte. What is refused on the way as a wrong value does not match, be it the key or what is
stored; a failure of any other class would go on.
-/

namespace QueryGateway.Credential

def hashAlphabet : Base64.Alphabet :=
  ⟨"./ABCDEFGHIJKLMNOPQRSTUVWXYZabcdefghijklmnopqrstuvwxyz0123456789".toList⟩

def maxKeyBytes : Nat := 72

inductive HashFault where
  | keyTooLong
  | keyNotUnicode
  | badSalt
deriving DecidableEq, Repr

def HashFault.message : HashFault → Text
  | .keyTooLong =>
    "password cannot be longer than 72 bytes, truncate manually if necessary (e.g. my_password[:72])"
  | .keyNotUnicode => "surrogates not allowed"
  | .badSalt => "Invalid salt"

def HashFault.failure : HashFault → Failure
  | .keyNotUnicode => .of (.foreign (.silent "" "UnicodeEncodeError") [] {})
  | fault => .plain "ValueError" fault.message

/-- What a salt says: the version, the cost and the bytes that are mixed in. -/
structure Salt where
  version : Text
  cost : Nat
  bytes : Bytes
deriving DecidableEq, Repr

/-- The versions of the format. They differ in nothing but their name. -/
def versions : List Text := ["2a", "2b", "2x", "2y"]

def costOf? (t : Text) : Option Nat :=
  let ds : Text := match t with
    | [] => []
    | c :: rest => if c = '+' then rest else c :: rest
  if ds ≠ [] ∧ ds.all CodePoint.isAsciiDigit ∧ Text.digitsValue ds < Number.twoPow 32 then
    some (Text.digitsValue ds)
  else none

/-- The bytes of letters, where no bits are left over. -/
def exactBytes? (t : Text) : Option Bytes := do
  let bytes := Base64.undigits (← t.mapM hashAlphabet.digit?)
  if Base64.encode hashAlphabet bytes = t then some bytes else none

def saltLetters : Nat := 22

def Salt.read? (t : Text) : Option Salt :=
  match t with
  | [] => none
  | c :: rest =>
    if c = '$' then
      match Text.cut '$' rest with
      | (version, some rest) =>
        match Text.cut '$' rest with
        | (cost, some rest) => do
          let cost ← costOf? cost
          let bytes ← exactBytes? (rest.take saltLetters)
          if version ∈ versions ∧ 4 ≤ cost ∧ cost ≤ 31 ∧ bytes.length = 16 then
            some ⟨version, cost, bytes⟩
          else none
        | _ => none
      | _ => none
    else none

def Salt.write (s : Salt) : Text :=
  "$" ++ s.version ++ "$" ++ Text.padded 2 s.cost ++ "$" ++ Base64.encode hashAlphabet s.bytes

def hashKey (key salt : Text) : Except HashFault Text :=
  match Utf8.encode? key with
  | none => .error .keyNotUnicode
  | some bytes =>
    if maxKeyBytes < bytes.length then .error .keyTooLong
    else
      match Salt.read? salt with
      | none => .error .badSalt
      | some s =>
        .ok (s.write ++ Base64.encode hashAlphabet (Blowfish.digest s.cost s.bytes bytes))

/-! ## Verification -/

/-- The class of wrong values, and the classes that come under it. -/
def wrongValueClasses : List Text :=
  ["ValueError", "UnicodeError", "UnicodeEncodeError", "UnicodeDecodeError",
    "UnicodeTranslateError"]

/-- A key compared with what is stored, both in bytes, with every failure that this may end in. -/
def compareKey (key stored : Text) : Except Failure Bool := do
  let _ ← Utf8.encodeStrictly key
  let bytes ← Utf8.encodeStrictly stored
  let hash ← (hashKey key stored).mapError HashFault.failure
  .ok (Utf8.encode hash = bytes)

/-- What is refused as a wrong value does not match; every other failure goes on. -/
def mismatchIfRefused : Except Failure Bool → Except Failure Bool
  | .ok same => .ok same
  | .error f => if wrongValueClasses.contains f.className then .ok false else .error f

def verification (key stored : Text) : Except Failure Bool :=
  mismatchIfRefused (compareKey key stored)

/-- Whether a key is the one that was stored. Verifying always comes to a verdict. -/
def verifyKey (key stored : Text) : Bool := (verification key stored).toOption.getD false

end QueryGateway.Credential
