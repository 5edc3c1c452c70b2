import QueryGateway.Value.Basic

/-!
# Faults of a query

What is wrong with a query, where in its text, and, once it runs, where in its result.
-/

namespace QueryGateway.Graph

structure Fault where
  message : Text
  positions : List Nat
  path : List Value
deriving Repr

def Fault.at (message : Text) (positions : List Nat) : Fault := ⟨message, positions, []⟩

end QueryGateway.Graph
