import QueryGateway.Log.Line

/-!
# Where log records go

Records pass two gates: the level of the root logger and the level of each handler. `configure` sets
both to the level that a name stands for and replaces all handlers by a single one that writes lines;
a name that stands for nothing stands for `INFO`. Two names of the table stand for something that is
no level: with them `configure` fails and leaves everything as it was.

Handlers that were there before are foreign: what they write is not the gateway's.
-/

namespace QueryGateway.Log

inductive Handler where
  | lines (level : Level)
  | foreign
deriving DecidableEq, Repr

def Handler.level : Handler → Level
  | .lines level => level
  | .foreign => 0

structure Root where
  level : Level
  handlers : List Handler
deriving DecidableEq, Repr

def Root.initial (foreignHandlers : Nat) : Root := ⟨info, List.replicate foreignHandlers .foreign⟩

inductive Named where
  | level (level : Level)
  | format (t : Text)
  | formats (shown : Text)
deriving DecidableEq, Repr

def basicFormat : Text := "%(levelname)s:%(name)s:%(message)s"

def formatTable : Text :=
  ("\x7b'%': (<class 'logging.PercentStyle'>, '%(levelname)s:%(name)s:%(message)s'), " : Text) ++
  "'\x7b': (<class 'logging.StrFormatStyle'>, '\x7blevelname\x7d:\x7bname\x7d:\x7bmessage\x7d'), " ++
  "'$': (<class 'logging.StringTemplateStyle'>, " ++
  "'$\x7blevelname\x7d:$\x7bname\x7d:$\x7bmessage\x7d')\x7d"

def named? (name : Text) : Option Named :=
  if name = "CRITICAL" ∨ name = "FATAL" then some (.level critical)
  else if name = "ERROR" then some (.level error)
  else if name = "WARNING" ∨ name = "WARN" then some (.level warning)
  else if name = "INFO" then some (.level info)
  else if name = "DEBUG" then some (.level debug)
  else if name = "NOTSET" then some (.level 0)
  else if name = "BASIC_FORMAT" then some (.format basicFormat)
  else if name = "_STYLES" then some (.formats formatTable)
  else none

def resolve (setting : Text) : Except Failure Level :=
  match named? (Text.upper setting) with
  | some (.level level) => .ok level
  | some (.format t) => .error (.plain "ValueError" (("Unknown level: '" : Text) ++ t ++ "'"))
  | some (.formats t) =>
    .error (.plain "TypeError" ("Level not an integer or a valid string: " ++ t))
  | none => .ok info

def Root.admits (root : Root) (level : Level) : Bool := 0 < level && root.level ≤ level

def Handler.emit (h : Handler) (e : Entry) : List Text :=
  match h with
  | .foreign => []
  | .lines level =>
    if level ≤ e.level then
      match e.write with
      | .ok line => [line]
      | .error _ => []
    else []

def Root.log (root : Root) (e : Entry) : List Text :=
  if root.admits e.level then root.handlers.flatMap fun h => h.emit e else []

def configuredEntry (time : Instant) (setting : Text) : Entry where
  time := time
  level := debug
  logger := "root"
  template := "Logging configured"
  args := []
  correlationId := none
  functionName := []
  context := some (Value.object [("log_level", .text setting)])
  failure := none
  file := []
  line := 0
  function := []

def configure (time : Instant) (setting : Text) (root : Root) :
    Root × Except Failure (List Text) :=
  match resolve setting with
  | .error f => (root, .error f)
  | .ok level =>
    let root := ⟨level, [.lines level]⟩
    (root, .ok (root.log (configuredEntry time setting)))

end QueryGateway.Log
