import QueryGateway.Failure.Report

/-!
# Log records

What the gateway tells its operators: a level, the logger that speaks, a message, the id that ties
the records of one invocation together, and fields for machines to read. A record of a failure
carries the failure.
-/

namespace QueryGateway.Log

/-- How urgent a record is; higher is more urgent. -/
abbrev Level := Int

def debug : Level := 10
def info : Level := 20
def warning : Level := 30
def error : Level := 40
def critical : Level := 50

def levelName (level : Level) : Text :=
  if level = debug then "DEBUG"
  else if level = info then "INFO"
  else if level = warning then "WARNING"
  else if level = error then "ERROR"
  else if level = critical then "CRITICAL"
  else if level = 0 then "NOTSET"
  else "Level " ++ Text.ofInt level

structure Record where
  level : Level
  logger : Text
  message : Text
  correlationId : Option Value
  context : Members
  failure : Option Failure
deriving Repr

/-- What ties a record to an invocation, and its fields: the attributes of a record. The id is left
out if there is none. -/
def extra (correlationId : Value) (context : Members) : Option Value × Members :=
  match correlationId with
  | .null => (none, context)
  | id => (some id, context)

theorem extra_of_ne_null {id : Value} (h : id ≠ .null) (context : Members) :
    extra id context = (some id, context) := by
  cases id with
  | null => exact absurd rfl h
  | _ => rfl

def Record.of (level : Level) (logger message : Text) (correlationId : Value) (context : Members)
    (failure : Option Failure) : Record :=
  let (id, context) := extra correlationId context
  ⟨level, logger, message, id, context, failure⟩

end QueryGateway.Log
