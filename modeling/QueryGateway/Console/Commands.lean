import QueryGateway.Console.Arguments
import QueryGateway.Credential.Validator
import QueryGateway.Log.Line

/-!
# Managing keys

The commands by which operators manage keys: `generate` makes a key and the record to be stored,
`list` lists the stored keys, and `check` tells which of them a key is. What a command prints is a
text, and it ends with a status: zero if all is well, one if a key is not in use, two after a misuse.
-/

namespace QueryGateway.Console

open Credential

inductive Request where
  | generate (userId : Text) (description : Option Text)
  | list
  | check (key : Text)
deriving DecidableEq, Repr

def program : Text := "manage_api_keys.py"

/-- The line about the option for help; what it does stands in the given column. -/
def helpLine (column : Nat) : Text :=
  Text.padRight column "  -h, --help" ++ "show this help message and exit"

def programHelp : List Text :=
  ["usage: manage_api_keys.py [-h] \x7bgenerate,list,check\x7d ...", "", "Manage GraphQL API keys", "",
    "positional arguments:", "  \x7bgenerate,list,check\x7d",
    "    generate            Generate a new API key",
    "    list                List configured API keys",
    "    check               Check a key against API_KEYS", "", "options:", helpLine 24]

def generateHelp : List Text :=
  ["usage: manage_api_keys.py generate [-h] --user-id USER_ID",
    "                                   [--description DESCRIPTION]", "", "options:", helpLine 24,
    "  --user-id USER_ID     User the key belongs to", "  --description DESCRIPTION",
    "                        Key description"]

def listHelp : List Text :=
  ["usage: manage_api_keys.py list [-h]", "", "options:", helpLine 14]

def checkHelp : List Text :=
  ["usage: manage_api_keys.py check [-h] api_key", "", "positional arguments:",
    "  api_key     Plain text API key", "", "options:", helpLine 14]

def programGrammar : Grammar := ⟨program, [], none, programHelp⟩

def userFlag : Flag := ⟨["--user-id"], true, true⟩

def descriptionFlag : Flag := ⟨["--description"], true, false⟩

def commands : List (Text × Grammar) :=
  [("generate", ⟨program ++ " generate", [userFlag, descriptionFlag], none, generateHelp⟩),
    ("list", ⟨program ++ " list", [], none, listHelp⟩),
    ("check", ⟨program ++ " check", [], some "api_key", checkHelp⟩)]

def Request.ofArguments (args : List Text) : Except Stop Request := do
  let (word, given) ← readCommand programGrammar "command" commands args
  .ok (if word = "generate" then
      .generate ((given.value? "--user-id").getD []) (given.value? "--description")
    else if word = "check" then .check (given.operand.getD [])
    else .list)

/-- What a command needs from outside: random bytes and a salt, an id that nobody else has, the time,
and the stored keys. -/
structure Surroundings where
  entropy : Bytes
  salt : Text
  freshId : Text
  now : Instant
  apiKeys : List Members

structure Outcome where
  printed : Text
  complaint : Text
  ending : Except Failure Nat

def printLines (lines : List Text) : Text := lines.flatMap fun l => l ++ "\n"

def Outcome.done (lines : List Text) (status : Nat) : Outcome := ⟨printLines lines, [], .ok status⟩

def Outcome.failed (f : Failure) : Outcome := ⟨[], [], .error f⟩

/-! ## The commands -/

def newRecord (s : Surroundings) (userId : Text) (description : Option Text) (hash : Text) :
    Except Failure ApiKey :=
  let draft : ApiKey := ⟨s.freshId, hash, userId, activeStatus, some s.now.iso, description⟩
  match ApiKey.ofMembers draft.members with
  | .ok k => .ok k
  | .error r => .error (.rejected r)

def newKeyHead (key : Text) (record : ApiKey) : List Text :=
  ["✓ API Key created successfully", "", ("Key ID: " : Text) ++ record.keyId,
    ("API Key: " : Text) ++ key, "", "⚠️  IMPORTANT: Save this API key now!",
    "   It will not be shown again.", "", "Add this record to API_KEYS:"]

def newKeyLines (key : Text) (record : ApiKey) (json : Text) : List Text :=
  newKeyHead key record ++ [json]

def unwritableRecord : Failure :=
  .of (.foreign (.silent "pydantic_core._pydantic_core." "PydanticSerializationError") [] {})

def generate (s : Surroundings) (userId : Text) (description : Option Text) : Outcome :=
  let key := generateKey s.entropy
  match hashKey key s.salt with
  | .error fault => .failed fault.failure
  | .ok hash =>
    match newRecord s userId description hash with
    | .error f => .failed f
    | .ok record =>
      match record.json with
      | .error _ => ⟨printLines (newKeyHead key record), [], .error unwritableRecord⟩
      | .ok json => .done (newKeyLines key record json) 0

def row (keyId user status description : Text) : Text :=
  Text.padRight 38 keyId ++ " " ++ Text.padRight 20 user ++ " " ++ Text.padRight 10 status ++ " " ++
    Text.padRight 30 description

def descriptionWidth : Nat := 27

def shortDescription (description : Option Text) : Text :=
  let t := description.getD []
  if descriptionWidth < t.length then t.take descriptionWidth ++ "..." else t

def keyRow (k : ApiKey) : Text := row k.keyId k.userId k.status (shortDescription k.description)

def listHead : List Text :=
  ["", row "Key ID" "User" "Status" "Description", List.replicate 100 (CodePoint.ofChar '-')]

def listFoot (rows : Nat) : List Text := ["", ("Total: " : Text) ++ Text.ofNat rows ++ " API keys"]

def list (s : Surroundings) : Outcome :=
  match Validator.ofRecords s.apiKeys with
  | .error r => .failed (.rejected r)
  | .ok ⟨[]⟩ => .done ["No API keys configured."] 0
  | .ok ⟨keys⟩ =>
    .done (listHead ++ keys.map keyRow ++ listFoot keys.length) 0

def check (s : Surroundings) (key : Text) : Outcome :=
  match Validator.ofRecords s.apiKeys with
  | .error r => .failed (.rejected r)
  | .ok v =>
    match v.find? key with
    | none => .done ["✗ No configured key matches"] 1
    | some k =>
      .done [("Key ID: " : Text) ++ k.keyId, ("User: " : Text) ++ k.userId,
          ("Status: " : Text) ++ k.status]
        (if k.isActive then 0 else 1)

def Request.run (s : Surroundings) : Request → Outcome
  | .generate userId description => Console.generate s userId description
  | .list => Console.list s
  | .check key => Console.check s key

def run (s : Surroundings) (args : List Text) : Outcome :=
  match Request.ofArguments args with
  | .ok request => request.run s
  | .error (.help lines) => .done lines 0
  | .error (.misuse lines) => ⟨[], printLines lines, .ok 2⟩

end QueryGateway.Console
