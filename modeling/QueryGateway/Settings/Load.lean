import QueryGateway.Failure.Basic
import QueryGateway.Json.Read
import QueryGateway.Settings.Basic
import QueryGateway.Settings.EnvFile
import QueryGateway.Text.Case

/-!
# Where settings come from

A setting is taken from the first source that has it: what was given directly, then the environment,
then an environment file. The file is left alone where the environment tells that the deployment runs
in its place of service.

In the two environments the stored keys are written in JSON. A text that is no JSON is a failure, even
if the setting is then taken from elsewhere; a null is no setting.
-/

namespace QueryGateway.Settings

def serviceMark : Text := "AWS_EXECUTION_ENV"

/-- The names of an environment in small letters; of two that are the same then, the later counts. -/
def foldNames (e : EnvFile.Bindings) : EnvFile.Bindings :=
  e.foldl (fun bs b => EnvFile.bind bs b.1.lower b.2) []

def unreadable (name source : Text) : Failure :=
  .plain "SettingsError"
    (("error parsing value for field \"" : Text) ++ name ++ "\" from source \"" ++ source ++ "\"")

/-- The value of a setting in an environment: that of the stored keys is JSON, all others are texts. -/
def valueOf (source name t : Text) : Except Failure Value :=
  if name = apiKeysName then
    match Json.read? Json.Dialect.setting t with
    | some v => .ok v
    | none => .error (unreadable name source)
  else .ok (.text t)

def fromEnvironment (source : Text) (e : EnvFile.Bindings) : List Text → Except Failure Members
  | [] => .ok []
  | name :: rest => do
    let v ← match (e.find? fun b => b.1 = name).bind (·.2) with
      | some t => valueOf source name t
      | none => .ok .null
    let more ← fromEnvironment source e rest
    .ok (match v with
      | .null => more
      | v => (name, v) :: more)

def fromGiven (given : Members) : Members :=
  given.foldl (fun ms m => ms.put m.1.lower m.2) []

def fileBindings (environment : EnvFile.Environment) (file : Option Text) : EnvFile.Bindings :=
  match environment.get? serviceMark, file with
  | none, some file => EnvFile.read environment file
  | _, _ => []

def gather (environment : EnvFile.Environment) (file : Option Text) (given : Members) :
    Except Failure Members := do
  let fromVariables ← fromEnvironment "EnvSettingsSource"
    (foldNames (environment.map fun (k, v) => (k, some v))) names
  let fromFile ← fromEnvironment "DotEnvSettingsSource"
    (foldNames (fileBindings environment file)) names
  .ok ((fromFile.update fromVariables).update (fromGiven given))

def load (environment : EnvFile.Environment) (file : Option Text) (given : Members) :
    Except Failure Settings := do
  match ofMembers (← gather environment file given) with
  | .ok s => .ok s
  | .error r => .error (.rejected r)

end QueryGateway.Settings
