import QueryGateway.Graph.Execution
import QueryGateway.Graph.Introspection
import QueryGateway.Graph.Reader
import QueryGateway.Graph.Validation.Check
import QueryGateway.Invocation.Query
import QueryGateway.Invocation.Result

/-!
# Answering a query

A query is read, checked, given values for its variables, and run. The first of these that finds a
fault ends it: then there is no data, and the result tells all the faults that were found.
-/

namespace QueryGateway.Graph

open Invocation (Location Query QueryError Result)

variable {σ : Type}

def Fault.toError (source : Text) (f : Fault) : QueryError :=
  ⟨.text f.message, f.positions.map (Location.of source), f.path, .null⟩

def refusal (source : Text) (faults : List Fault) : Result :=
  ⟨.null, some (faults.map (Fault.toError source)), .null⟩

/-- What a query leads to before it is run: an operation with values for its variables. -/
def plan (s : Schema σ) (q : Query) : Except (List Fault) (Setting σ × Operation) := do
  let d ← match Document.read q.text with
    | .ok d => .ok d
    | .error f => .error [.at f.message [f.position]]
  match Validation.faults s d with
  | [] =>
    let o ← match chosenOperation d q.operationName with
      | .ok o => .ok o
      | .error f => .error [f]
    let bindings ← variableValues s q.bindings o
    .ok (⟨s, d, bindings⟩, o)
  | faults => .error faults

/-- The result of a query, and the state that its resolvers leave. The schema can also be asked about
itself. -/
def answer (s : Schema σ) (q : Query) (state : σ) : Result × σ :=
  match plan s.reflective q with
  | .error faults => (refusal q.text faults, state)
  | .ok (e, o) =>
    let (data, faults, state) := run e o state
    let errors := if faults.isEmpty then none else some (faults.map (Fault.toError q.text))
    (⟨data, errors, .null⟩, state)

end QueryGateway.Graph
