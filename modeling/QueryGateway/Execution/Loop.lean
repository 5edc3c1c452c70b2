import QueryGateway.Failure.Basic

/-!
# Executions in flight

An execution is started and ends later: it finishes with a value, it fails, or it is cancelled.
Whoever wants to know subscribes to it. When it ends its subscribers are queued in the order in which
they subscribed; one that comes after the end is queued at once. A turn of the loop runs what is in
the queue at its beginning; what is queued meanwhile waits for the next turn.

A subscriber has an effect, which is left to the owner of the loop: `Loop.turn` only says which
subscribers run and in which order.
-/

namespace QueryGateway.Execution

inductive Outcome (α : Type) where
  | finished (result : α)
  | failed (f : Failure)
  | cancelled
deriving Repr

def Outcome.name {α : Type} : Outcome α → Text
  | .finished _ => "finished"
  | .failed _ => "failed"
  | .cancelled => "cancelled"

/-- An execution: how it ended, if it did, and who waits for that. -/
structure Future (α σ : Type) where
  outcome : Option (Outcome α)
  waiting : List σ

/-- Executions by name, and the subscribers that are to run, each with its execution. -/
structure Loop (α σ : Type) where
  futures : List (Text × Future α σ)
  queue : List (σ × Text)

namespace Loop

variable {α σ : Type}

def idle : Loop α σ := ⟨[], []⟩

/-- The execution of a name; one that was never heard of is still running. -/
def future (l : Loop α σ) (name : Text) : Future α σ :=
  ((l.futures.find? fun f => f.1 = name).map (·.2)).getD ⟨none, []⟩

def setFuture (l : Loop α σ) (name : Text) (f : Future α σ) : Loop α σ :=
  { l with futures := (name, f) :: l.futures.filter fun g => g.1 ≠ name }

def outcome? (l : Loop α σ) (name : Text) : Option (Outcome α) := (l.future name).outcome

def isDone (l : Loop α σ) (name : Text) : Bool := (l.outcome? name).isSome

def subscribe (l : Loop α σ) (name : Text) (s : σ) : Loop α σ :=
  let f := l.future name
  match f.outcome with
  | none => l.setFuture name { f with waiting := f.waiting ++ [s] }
  | some _ => { l with queue := l.queue ++ [(s, name)] }

def subscribeAll (l : Loop α σ) (name : Text) (subscribers : List σ) : Loop α σ :=
  subscribers.foldl (fun l s => l.subscribe name s) l

/-- The loop after an execution ended, if it was still running. -/
def complete? (l : Loop α σ) (name : Text) (outcome : Outcome α) : Option (Loop α σ) :=
  let f := l.future name
  match f.outcome with
  | some _ => none
  | none =>
    let l := l.setFuture name ⟨some outcome, []⟩
    some { l with queue := l.queue ++ f.waiting.map fun s => (s, name) }

def turn (l : Loop α σ) : List (σ × Text) × Loop α σ := (l.queue, { l with queue := [] })

end Loop

end QueryGateway.Execution
