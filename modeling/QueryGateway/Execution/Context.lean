import QueryGateway.Execution.Loop

/-!
# Execution contexts

The context of one execution: it is created, callbacks may be added to it, and it is started once,
with the execution. Callbacks that were added before wait until then. A second start fails and
changes nothing.

A deployment may hook into the start. The hook runs after the callbacks were passed on, sees the
execution, and may fail; the context is started all the same.
-/

namespace QueryGateway.Execution

inductive Stage where
  | created
  | started
deriving DecidableEq, Repr

def Stage.name : Stage → Text
  | .created => "created"
  | .started => "started"

/-- Which cache an adapter or a context uses: the one of the process, or one of its own. -/
inductive CacheName where
  | process
  | own (n : Nat)
deriving DecidableEq, Repr

/-- A context. The execution is named once the context is started. -/
structure Context (σ : Type) where
  stage : Stage
  execution : Option Text
  pending : List σ
  cache : CacheName
  hookRuns : Nat

namespace Context

variable {α σ : Type}

/-- A new context. Without a cache of its own it uses the one of the process. -/
def new (cache : Option CacheName) : Context σ := ⟨.created, none, [], cache.getD .process, 0⟩

def isStarted (c : Context σ) : Bool := c.stage = .started

/-- What a hook does: it adds callbacks, and then fails or not. -/
structure Hook (σ : Type) where
  adds : List σ
  outcome : Except Failure Unit

def alreadyStarted (c : Context σ) : Failure :=
  .standard .contextLifecycle [("state", .text c.stage.name)]

/-- The context and the loop after a callback was added: it waits for the start, or for the
execution. -/
def add (c : Context σ) (l : Loop α σ) (callback : σ) : Context σ × Loop α σ :=
  match c.execution with
  | none => ({ c with pending := c.pending ++ [callback] }, l)
  | some name => (c, l.subscribe name callback)

def addAll (c : Context σ) (l : Loop α σ) (callbacks : List σ) : Context σ × Loop α σ :=
  callbacks.foldl (fun (c, l) s => add c l s) (c, l)

def start (c : Context σ) (l : Loop α σ) (execution : Text) (hook : Hook σ) :
    Except Failure Unit × Context σ × Loop α σ :=
  match c.stage with
  | .started => (.error c.alreadyStarted, c, l)
  | .created =>
    let l := l.subscribeAll execution c.pending
    let c : Context σ :=
      { c with stage := .started, execution := some execution, pending := [],
               hookRuns := c.hookRuns + 1 }
    let (c, l) := addAll c l hook.adds
    (hook.outcome, c, l)

end Context

/-! ## Runs -/

/-- A callback as data: what is noted when it runs, the callbacks it then adds to the context, and
whether it ends with a failure, which nobody sees. -/
inductive Callback where
  | make (name : Text) (adds : List Callback) (fails : Bool)

def Callback.name : Callback → Text
  | .make name _ _ => name

def Callback.adds : Callback → List Callback
  | .make _ adds _ => adds

/-- A context, the loop around it, and what its callbacks noted. -/
structure Scene where
  context : Context Callback
  loop : Loop Value Callback
  called : List (Text × Outcome Value)

inductive Act where
  | add (callback : Callback)
  | start (execution : Text)
  | complete (execution : Text) (outcome : Outcome Value)
  | cancel (execution : Text)
  | turn

namespace Scene

def new (cache : Option CacheName) : Scene := ⟨.new cache, .idle, []⟩

def alreadyDone : Failure := .plain "InvalidStateError" "invalid state"

/-- The scene after one callback ran: it is noted and adds its callbacks. -/
def runCallback (s : Scene) (callback : Callback) (execution : Text) : Scene :=
  let noted := match s.loop.outcome? execution with
    | some outcome => [(callback.name, outcome)]
    | none => []
  let (c, l) := s.context.addAll s.loop callback.adds
  ⟨c, l, s.called ++ noted⟩

def act (s : Scene) (hook : Context.Hook Callback) : Act → Except Failure Value × Scene
  | .add callback =>
    let (c, l) := s.context.add s.loop callback
    (.ok .null, { s with context := c, loop := l })
  | .start execution =>
    let (outcome, c, l) := s.context.start s.loop execution hook
    (outcome.map fun _ => .null, { s with context := c, loop := l })
  | .complete execution outcome =>
    match s.loop.complete? execution outcome with
    | some l => (.ok .null, { s with loop := l })
    | none => (.error alreadyDone, s)
  | .cancel execution =>
    match s.loop.complete? execution .cancelled with
    | some l => (.ok (.bool true), { s with loop := l })
    | none => (.ok (.bool false), s)
  | .turn =>
    let (run, l) := s.loop.turn
    (.ok .null, run.foldl (fun s (callback, execution) => s.runCallback callback execution)
      { s with loop := l })

end Scene

end QueryGateway.Execution
