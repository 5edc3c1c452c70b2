import QueryGateway.Graph.Validation.Overlap
import QueryGateway.Graph.Validation.Rules

/-!
# Whether a document is valid

All rules at every site of the walk, in order. A document with very many faults is not checked to the
end.
-/

namespace QueryGateway.Graph.Validation

variable {σ : Type}

def checks : List (Check σ) :=
  [knownOperationTypes, uniqueOperationNames, loneAnonymousOperation, knownTypeNames,
    fragmentsOnObjects, variablesAreInputs, leavesAndSelections, fieldsAreDefined,
    uniqueFragmentNames, knownFragmentNames, noUnusedFragments, possibleSpreads, noFragmentCycles,
    uniqueVariableNames, noUndefinedVariables, noUnusedVariables, knownDirectivesOnly,
    uniqueDirectives, knownArguments, uniqueArguments, literalsFit, requiredArguments, variablesFit]

def findings (s : Schema σ) (d : Document) (site : Site σ) : List Fault :=
  checks.flatMap fun check => check s d site

def allFaults (s : Schema σ) (d : Document) : List Fault :=
  let walk := sites s d
  (walk.zip (overlaps s d walk)).flatMap fun (site, conflicts) =>
    findings s d site ++ conflicts ++ uniqueInputFields s d site ++ narrowQuestions s d site

def maxFaults : Nat := 100

def tooManyFaults : Fault :=
  .at "Too many validation errors, error limit reached. Validation aborted." []

def faults (s : Schema σ) (d : Document) : List Fault :=
  let all := allFaults s d
  if maxFaults < all.length then all.take maxFaults ++ [tooManyFaults] else all

end QueryGateway.Graph.Validation
