import QueryGateway.Graph.Engine
import QueryGateway.Invocation.Deployment

/-!
# Queries against a schema

The execution that resolves a query against a schema whose resolvers share the caches. It does nothing
before it runs, never fails as a whole, and adds no callbacks: what goes wrong in it is in its result.
-/

namespace QueryGateway.Invocation

open QueryGateway.Graph (Schema)

def PendingExecution.ofSchema (s : Schema Caches) (q : Query) : PendingExecution where
  run caches :=
    let (result, caches) := Graph.answer s q caches
    (.ok result, caches, [])

end QueryGateway.Invocation
