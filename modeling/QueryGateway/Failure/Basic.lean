import QueryGateway.Form.Complaint

/-!
# Failures

A failure is what a stage of an invocation ends with instead of a result. The gateway's own failures
carry a kind, a code, a message and details; every other failure comes from a collaborator or a
library and carries the arguments it was made with, and now and then attributes of its own. A failure
may name another one as its cause, or as the failure during whose handling it arose.

`Failure.kind` is all that classification looks at: the outermost failure alone decides, whatever its
cause and context are.
-/

namespace QueryGateway

inductive FailureKind where
  | malformedRequest
  | accessDenied
  | validationInfrastructure
  | executionFailure
  | serializationFailure
  | internal
deriving DecidableEq, Repr

def FailureKind.name : FailureKind → Text
  | .malformedRequest => "malformed_request"
  | .accessDenied => "access_denied"
  | .validationInfrastructure => "validation_infrastructure_failure"
  | .executionFailure => "execution_failure"
  | .serializationFailure => "serialization_failure"
  | .internal => "internal"

def FailureKind.ofName? (t : Text) : Option FailureKind :=
  [.malformedRequest, .accessDenied, .validationInfrastructure, .executionFailure,
    .serializationFailure, .internal].find? fun k => k.name = t

/-- What a failure says its kind is: one of the kinds, or something that is none of them. -/
inductive KindTag where
  | known (k : FailureKind)
  | strange (className : Text) (value : Option Value)
deriving Repr

namespace KindTag

instance : Coe FailureKind KindTag := ⟨.known⟩

instance : Coe (Option FailureKind) (Option KindTag) := ⟨Option.map .known⟩

def name : KindTag → Text
  | .known k => k.name
  | .strange className _ => className

def value? : KindTag → Option Value
  | .known k => some (.text k.name)
  | .strange _ value => value

def isDenial : KindTag → Bool
  | .known .accessDenied => true
  | _ => false

end KindTag

/-- The gateway's own classes of failure, and those that a deployment derives from them. -/
inductive OwnClass where
  | general
  | malformedRequest
  | accessDenied
  | validationInfrastructure
  | executionFailure
  | serializationFailure
  | contextLifecycle
  | derived (qualifier name : Text)
deriving DecidableEq, Repr

namespace OwnClass

def name : OwnClass → Text
  | .general => "GraphQLLambdaError"
  | .malformedRequest => "MalformedRequestError"
  | .accessDenied => "AccessDeniedError"
  | .validationInfrastructure => "ValidationInfrastructureError"
  | .executionFailure => "ExecutionFailureError"
  | .serializationFailure => "SerializationFailureError"
  | .contextLifecycle => "ContextLifecycleError"
  | .derived _ name => name

def qualifiedName : OwnClass → Text
  | .derived qualifier name => qualifier ++ name
  | cls => "src.exceptions." ++ cls.name

def ofName? (t : Text) : Option OwnClass :=
  [.general, .malformedRequest, .accessDenied, .validationInfrastructure, .executionFailure,
    .serializationFailure, .contextLifecycle].find? fun c => c.name = t

/-- The kind of a class. A derived class starts with what the general one has. -/
def kind : OwnClass → FailureKind
  | .general | .contextLifecycle | .derived .. => .internal
  | .malformedRequest => .malformedRequest
  | .accessDenied => .accessDenied
  | .validationInfrastructure => .validationInfrastructure
  | .executionFailure => .executionFailure
  | .serializationFailure => .serializationFailure

def code : OwnClass → Text
  | .general | .derived .. => "INTERNAL_ERROR"
  | .malformedRequest => "MALFORMED_REQUEST"
  | .accessDenied => "ACCESS_DENIED"
  | .validationInfrastructure => "VALIDATION_FAILURE"
  | .executionFailure => "EXECUTION_FAILURE"
  | .serializationFailure => "SERIALIZATION_FAILURE"
  | .contextLifecycle => "CONTEXT_LIFECYCLE"

def defaultMessage : OwnClass → Text
  | .general | .derived .. => ""
  | .malformedRequest => "Malformed GraphQL request"
  | .accessDenied => "AccessDeniedError"
  | .validationInfrastructure => "User validation failed"
  | .executionFailure => "GraphQL execution failed"
  | .serializationFailure => "Failed to serialize execution result"
  | .contextLifecycle => "Execution context already started"

end OwnClass

structure OwnFailure where
  cls : OwnClass
  message : Text
  kind : FailureKind
  code : Text
  details : Value
deriving Repr

/-- Details that say nothing are an empty map. -/
def OwnFailure.tidy (details : Value) : Value := if details.isTruthy then details else .map []

def OwnFailure.ofClass (cls : OwnClass) (message : Text) (details : Value) : OwnFailure :=
  ⟨cls, message, cls.kind, cls.code, tidy details⟩

/-- How the classes of others word a failure. -/
inductive ForeignClass where
  | plain (name : Text)
  | missingKey
  | system (name : Text)
  /-- The message is not kept. -/
  | silent (qualifier name : Text)
  /-- Asking for the message fails in turn, with a failure of another class. -/
  | mute (name failName failMessage : Text)
  | cancelled
deriving DecidableEq, Repr

def systemClass : Text := "OSError"

def systemClasses : List (Nat × Text) :=
  [(1, "PermissionError"), (2, "FileNotFoundError"), (3, "ProcessLookupError"),
    (4, "InterruptedError"), (10, "ChildProcessError"), (11, "BlockingIOError"),
    (13, "PermissionError"), (17, "FileExistsError"), (20, "NotADirectoryError"),
    (21, "IsADirectoryError"), (32, "BrokenPipeError"), (103, "ConnectionAbortedError"),
    (104, "ConnectionResetError"), (108, "BrokenPipeError"), (110, "TimeoutError"),
    (111, "ConnectionRefusedError"), (114, "BlockingIOError"), (115, "BlockingIOError")]

def isNumbered (args : List Value) : Bool := 2 ≤ args.length && args.length ≤ 5

/-- The class of a failure of the system. A general one with a number is of the class that the number
stands for. -/
def ForeignClass.ofSystem (name : Text) (args : List Value) : ForeignClass :=
  let number : Option Int :=
    match args with
    | .int n :: _ => some n
    | .bool b :: _ => some (if b then 1 else 0)
    | _ => none
  if name = systemClass ∧ isNumbered args then
    .system (((systemClasses.find? fun c => some (c.1 : Int) = number).map (·.2)).getD name)
  else .system name

def ForeignClass.name : ForeignClass → Text
  | .plain name | .system name | .silent _ name | .mute name .. => name
  | .missingKey => "KeyError"
  | .cancelled => "CancelledError"

def ForeignClass.qualifiedName : ForeignClass → Text
  | .silent qualifier name => qualifier ++ name
  | .cancelled => "asyncio.exceptions.CancelledError"
  | cls => cls.name

structure Attributes where
  kind : Option KindTag := none
  message : Option Value := none
  code : Option Value := none
  extensions : Option Value := none
deriving Repr

inductive Origin where
  | own (f : OwnFailure)
  | foreign (cls : ForeignClass) (args : List Value) (attributes : Attributes)
  | rejected (r : Form.Rejection)
deriving Repr

/-- A failure with what led to it. `raised` tells whether it ever was on its way up; a failure that
was only made, to be named as a cause, was not. -/
inductive Failure where
  | make (origin : Origin) (cause context : Option Failure) (suppressContext raised : Bool)
deriving Repr

namespace Failure

def origin : Failure → Origin
  | .make o .. => o

def cause? : Failure → Option Failure
  | .make _ c .. => c

def context? : Failure → Option Failure
  | .make _ _ c .. => c

def suppressContext : Failure → Bool
  | .make _ _ _ s _ => s

def raised : Failure → Bool
  | .make _ _ _ _ r => r

def of (origin : Origin) : Failure := .make origin none none false true

def own (cls : OwnClass) (message : Text) (details : Members) : Failure :=
  .of (.own (.ofClass cls message (Value.object details)))

def standard (cls : OwnClass) (details : Members) : Failure := own cls cls.defaultMessage details

def plain (name message : Text) : Failure := .of (.foreign (.plain name) [.text message] {})

def cancellation : Failure := .of (.foreign .cancelled [] {})

def unhashable (kindName : Text) : Failure :=
  plain "TypeError" (("unhashable type: '" : Text) ++ kindName ++ "'")

def rejected (r : Form.Rejection) : Failure := .of (.rejected r)

def causedBy (f cause : Failure) : Failure :=
  .make f.origin (some cause) (some cause) true f.raised

def during (f context : Failure) : Failure :=
  .make f.origin f.cause? (some context) f.suppressContext f.raised

def raise (f : Failure) : Failure := .make f.origin f.cause? f.context? f.suppressContext true

def isOwn (f : Failure) : Bool :=
  match f.origin with
  | .own _ => true
  | _ => false

/-- Whether the failure is a cancellation, which no stage takes for an error. -/
def isCancellation (f : Failure) : Bool :=
  match f.origin with
  | .foreign .cancelled _ _ => true
  | _ => false

def className (f : Failure) : Text :=
  match f.origin with
  | .own f => f.cls.name
  | .foreign cls _ _ => cls.name
  | .rejected _ => "ValidationError"

/-- The kind of a failure. One without a kind of its own is internal. -/
def kind (f : Failure) : KindTag :=
  match f.origin with
  | .own f => .known f.kind
  | .foreign _ _ a => a.kind.getD (.known .internal)
  | .rejected _ => .known .internal

def muteness? (f : Failure) : Option Failure :=
  match f.origin with
  | .foreign (.mute _ failName failMessage) _ _ => some (plain failName failMessage)
  | _ => none

end Failure

end QueryGateway
