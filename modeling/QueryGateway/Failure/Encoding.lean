import QueryGateway.Failure.Basic
import QueryGateway.Text.Quoted

/-!
# Texts that an encoding has no place for

ASCII has no place for most characters, UTF-8 for a surrogate. Encoding a text fails at the first
run of such characters, and the failure names that run.
-/

namespace QueryGateway

/-- The first run of characters that do not fit: its position, its first character, its length. -/
def Text.unfitRun? (fits : CodePoint → Bool) (position : Nat) :
    Text → Option (Nat × CodePoint × Nat)
  | [] => none
  | c :: rest =>
    if fits c then unfitRun? fits (position + 1) rest
    else some (position, c, 1 + (rest.takeWhile fun d => !fits d).length)

namespace Failure

def unencodable (codec reason : Text) (position : Nat) (c : CodePoint) (length : Nat) : Failure :=
  let place : Text :=
    if length = 1 then
      ("character '" : Text) ++ Text.numberedEscape c ++ "' in position " ++ Text.ofNat position
    else
      ("characters in position " : Text) ++ Text.ofNat position ++ "-" ++
        Text.ofNat (position + length - 1)
  .plain "UnicodeEncodeError"
    (("'" : Text) ++ codec ++ "' codec can't encode " ++ place ++ ": " ++ reason)

end Failure

def Utf8.encodeStrictly (t : Text) : Except Failure Bytes :=
  match t.unfitRun? (fun c => !c.isSurrogate) 0 with
  | some (position, c, length) =>
    .error (.unencodable "utf-8" "surrogates not allowed" position c length)
  | none => .ok (encode t)

end QueryGateway
