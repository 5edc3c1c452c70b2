import QueryGateway.Console.Commands
import QueryGateway.Failure.Report
import QueryGateway.Settings.Load
import Std.Time.DateTime.Timestamp

/-!
# The program for managing keys

The outermost layer: it collects what a command needs, the settings and the randomness and the time,
and writes down what the command printed.
-/

namespace QueryGateway.Program

def bytesOf (a : ByteArray) : Bytes := a.toList

def bindingsOf (bytes : Bytes) : EnvFile.Environment :=
  (Text.pieces (CodePoint.ofNat 0) (Utf8.decodeLossy bytes)).filterMap fun t =>
    match Text.cut '=' t with
    | (name, some value) => some (name, value)
    | _ => none

def fileBytes? (name : String) : IO (Option Bytes) := do
  try
    let content ← IO.FS.readBinFile name
    pure (some (bytesOf content))
  catch _ => pure none

def settings : IO (Except Failure Settings) := do
  let environment := ((← fileBytes? "/proc/self/environ").map bindingsOf).getD []
  let file := (← fileBytes? ".env").map Utf8.decodeLossy
  pure (Settings.load environment file [])

def randomBytes (n : Nat) : IO Bytes := do pure (bytesOf (← IO.getRandomBytes n.toUSize))

def newSalt : IO Text := do
  pure (Credential.Salt.write ⟨"2b", 12, ← randomBytes 16⟩)

def idOf (bytes : Bytes) : Text :=
  let marked : Bytes := bytes.mapIdx fun i b =>
    if i = 6 then b % 16 + 0x40 else if i = 8 then b % 64 + 0x80 else b
  let digits : Text := marked.flatMap fun b => Text.hex 2 b.toNat
  Text.join "-" [digits.take 8, (digits.drop 8).take 4, (digits.drop 12).take 4,
    (digits.drop 16).take 4, digits.drop 20]

def now : IO Instant := do
  let t := (← Std.Time.Timestamp.now).toNanosecondsSinceUnixEpoch.toInt.toNat
  pure (Instant.ofUnix (t / 1000000000) (t / 1000 % 1000000))

def surroundings (s : Settings) : IO Console.Surroundings := do
  pure ⟨← randomBytes Credential.keyEntropy, ← newSalt, idOf (← randomBytes 16), ← now, s.apiKeys⟩

def finish (o : Console.Outcome) : IO UInt32 := do
  IO.print o.printed.toString
  IO.eprint o.complaint.toString
  match o.ending with
  | .ok status => pure status.toUInt32
  | .error f =>
    IO.eprintln f.report.toString
    pure 1

end QueryGateway.Program

open QueryGateway in
def main (args : List String) : IO UInt32 := do
  match ← Program.settings with
  | .error f => Program.finish (.failed f)
  | .ok s => Program.finish (Console.run (← Program.surroundings s) (args.map Text.ofString))
