import QueryGateway.Graph.Fault
import QueryGateway.Graph.Suggestion
import QueryGateway.Graph.Validation.Literals
import QueryGateway.Graph.Validation.Usage

/-!
# Rules about documents

Each rule says what it finds at one site of the walk, given the schema and the whole document. The
rules stand here in the order in which they report on a site.

What is NOT here: the values that literals may have (`Validation.Literals`), and whether fields that
share a name in the result can be merged (`Validation.Overlap`).
-/

namespace QueryGateway.Graph.Validation

variable {σ : Type}

abbrev Check (σ : Type) := Schema σ → Document → Site σ → List Fault

def faultIf (condition : Bool) (message : Text) (positions : List Nat) : List Fault :=
  if condition then [.at message positions] else []

def earlier? (names : List Name) (n : Name) : Option Name :=
  (names.find? fun m => m.text = n.text).filter fun m => m ≠ n

def onlyOne (what : Text) (names : List Name) (n : Name) : List Fault :=
  match earlier? names n with
  | some first =>
    [.at ("There can be only one " ++ what ++ " named '" ++ n.text ++ "'.") [first.start, n.start]]
  | none => []

def onlyOneOfEach (what mark : Text) (names : List Name) : List Fault :=
  names.flatMap fun n =>
    let same := names.filter fun m => m.text = n.text
    if same.head? = some n ∧ 1 < same.length then
      [.at ("There can be only one " ++ what ++ " named '" ++ mark ++ n.text ++ "'.")
        (same.map (·.start))]
    else []

/-! ## Operations and fragments -/

def knownOperationTypes : Check σ
  | _, _, .operation o =>
    faultIf (o.kind ≠ .query)
      ("The " ++ o.kind.word ++ " operation is not supported by the schema.") [o.start]
  | _, _, _ => []

def uniqueOperationNames : Check σ
  | _, d, .operation o =>
    (o.name.toList).flatMap fun n => onlyOne "operation" (d.operations.filterMap (·.name)) n
  | _, _, _ => []

def loneAnonymousOperation : Check σ
  | _, d, .operation o =>
    faultIf (o.name.isNone && 1 < d.operations.length)
      "This anonymous operation must be the only defined operation." [o.start]
  | _, _, _ => []

def knownTypeNames : Check σ
  | s, _, .typeName n =>
    faultIf (s.type? n.text).isNone
      ("Unknown type '" ++ n.text ++ "'." ++
        Suggestion.question (Suggestion.near n.text (s.types.map (·.name)))) [n.start]
  | _, _, _ => []

def isLeaf (s : Schema σ) (name : Text) : Bool :=
  match s.type? name with
  | some t => t.object?.isNone
  | none => false

def fragmentsOnObjects : Check σ
  | s, _, .inline _ _ i =>
    (i.condition.toList).flatMap fun n =>
      faultIf (isLeaf s n.text)
        ("Fragment cannot condition on non composite type '" ++ n.text ++ "'.") [n.start]
  | s, _, .fragment f =>
    faultIf (isLeaf s f.condition.text)
      ("Fragment '" ++ f.name.text ++ "' cannot condition on non composite type '" ++
        f.condition.text ++ "'.") [f.condition.start]
  | _, _, _ => []

def variablesAreInputs : Check σ
  | s, _, .variable v =>
    faultIf ((s.type? v.type.name.text).any fun t => t.object?.isSome)
      ("Variable '$" ++ v.name.text ++ "' cannot be non-input type '" ++ (TypeUse.ofRef v.type).shown ++
        "'.") [v.type.start]
  | _, _, _ => []

/-! ## Fields -/

def leavesAndSelections : Check σ
  | s, _, .field f =>
    match f.definition with
    | none => []
    | some d =>
      match s.type? d.type.name, f.field.brace with
      | some (.object _), none =>
        [.at ("Field '" ++ f.field.name.text ++ "' of type '" ++ d.type.shown ++
          "' must have a selection of subfields. Did you mean '" ++ f.field.name.text ++
          " \x7b ... \x7d'?") [f.field.start]]
      | some (.object _), some _ => []
      | some _, some brace =>
        [.at ("Field '" ++ f.field.name.text ++ "' must not have a selection since type '" ++
          d.type.shown ++ "' has no subfields.") [brace]]
      | _, _ => []
  | _, _, _ => []

def fieldsAreDefined : Check σ
  | _, _, .field f =>
    match f.parent, f.definition with
    | some o, none =>
      [.at ("Cannot query field '" ++ f.field.name.text ++ "' on type '" ++ o.name ++ "'." ++
        Suggestion.question (Suggestion.near f.field.name.text (o.fields.map (·.name))))
        [f.field.start]]
    | _, _ => []
  | _, _, _ => []

/-! ## Spreads -/

def uniqueFragmentNames : Check σ
  | _, d, .fragment f => onlyOne "fragment" (d.fragments.map (·.name)) f.name
  | _, _, _ => []

def knownFragmentNames : Check σ
  | _, d, .spread _ p =>
    faultIf (d.fragment? p.name.text).isNone ("Unknown fragment '" ++ p.name.text ++ "'.")
      [p.name.start]
  | _, _, _ => []

def noUnusedFragments : Check σ
  | _, d, .documentEnd =>
    let used := d.operations.flatMap fun o => (fragmentsOf d o).map fun f => f.name.text
    d.fragments.flatMap fun f =>
      faultIf (!used.contains f.name.text) ("Fragment '" ++ f.name.text ++ "' is never used.") [f.start]
  | _, _, _ => []

def neverApplies (fragment parent type : Text) : Text :=
  fragment ++ " cannot be spread here as objects of type '" ++ parent ++ "' can never be of type '" ++
    type ++ "'."

def possibleSpreads : Check σ
  | _, _, .inline (some parent) (some (.object o)) i =>
    faultIf (parent.name ≠ o.name) (neverApplies "Fragment" parent.name o.name) [i.start]
  | s, d, .spread (some parent) p =>
    match (d.fragment? p.name.text).bind fun f => s.object? f.condition.text with
    | some o =>
      faultIf (parent.name ≠ o.name)
        (neverApplies ("Fragment '" ++ p.name.text ++ "'") parent.name o.name) [p.start]
    | none => []
  | _, _, _ => []

structure CycleSearch where
  faults : List Fault
  visited : List Text

def cycleFault (name : Text) (way : List Spread) : Fault :=
  let via : List Text := way.dropLast.map fun p => quoted p.name.text
  .at ("Cannot spread fragment '" ++ name ++ "' within itself" ++
    (if via = [] then ([] : Text) else " via " ++ Text.join ", " via) ++ ".") (way.map (·.start))

/-- The search through the spreads of a fragment. `way` holds the spreads on the way to it, and
`index` the fragments on the way with the number of spreads in front of each. Every level goes into a
fragment that was not visited, so the number of fragments and one is enough fuel. -/
def searchCycles (d : Document) :
    (fuel : Nat) → (way : List Spread) → (index : List (Text × Nat)) → CycleSearch → Fragment →
      CycleSearch
  | 0, _, _, found, _ => found
  | fuel + 1, way, index, found, f =>
    if found.visited.contains f.name.text then found
    else
      let index := (f.name.text, way.length) :: index
      (spreads f.selections).foldl
        (fun found p =>
          let onWay := way ++ [p]
          match index.find? fun e => e.1 = p.name.text with
          | some (_, n) =>
            { found with faults := found.faults ++ [cycleFault p.name.text (onWay.drop n)] }
          | none =>
            match d.fragment? p.name.text with
            | some g => searchCycles d fuel onWay index found g
            | none => found)
        { found with visited := found.visited ++ [f.name.text] }

def noFragmentCycles : Check σ
  | _, d, .fragment f =>
    let search (found : CycleSearch) (g : Fragment) : CycleSearch :=
      searchCycles d (d.fragments.length + 1) [] [] found g
    let before := (d.fragments.takeWhile fun g => g.start ≠ f.start).foldl search ⟨[], []⟩
    (search before f).faults.drop before.faults.length
  | _, _, _ => []

/-! ## Variables -/

def uniqueVariableNames : Check σ
  | _, _, .operation o => onlyOneOfEach "variable" "$" (o.variableDefinitions.map (·.name))
  | _, _, _ => []

def noUndefinedVariables : Check σ
  | s, d, .operation o =>
    (usagesOf s d o).flatMap fun u =>
      faultIf (!(o.variableDefinitions.any fun v => v.name.text = u.name))
        (match o.name with
          | some n =>
            "Variable '$" ++ u.name ++ "' is not defined by operation '" ++ n.text ++ "'."
          | none => "Variable '$" ++ u.name ++ "' is not defined.") [u.start, o.start]
  | _, _, _ => []

def noUnusedVariables : Check σ
  | s, d, .operation o =>
    let used := (usagesOf s d o).map (·.name)
    o.variableDefinitions.flatMap fun v =>
      faultIf (!used.contains v.name.text)
        (match o.name with
          | some n =>
            "Variable '$" ++ v.name.text ++ "' is never used in operation '" ++ n.text ++ "'."
          | none => "Variable '$" ++ v.name.text ++ "' is never used.") [v.start]
  | _, _, _ => []

/-! ## Directives -/

def knownDirectivesOnly : Check σ
  | _, _, .directive place d =>
    match directive? d.name.text with
    | none => [.at ("Unknown directive '@" ++ d.name.text ++ "'.") [d.start]]
    | some known =>
      faultIf (!known.places.contains place)
        ("Directive '@" ++ d.name.text ++ "' may not be used on " ++ place.name ++ ".") [d.start]
  | _, _, _ => []

def directivesAt : Site σ → List Directive
  | .operation o => o.directives
  | .fragment f => f.directives
  | .variable v => v.directives
  | .field f => f.field.directives
  | .spread _ p => p.directives
  | .inline _ _ i => i.directives
  | _ => []

def uniqueDirectives : Check σ
  | _, _, site =>
    let ds := (directivesAt site).filter fun d => (directive? d.name.text).isSome
    ds.flatMap fun d =>
      match ds.find? fun e => e.name.text = d.name.text with
      | some first =>
        faultIf (first.start ≠ d.start)
          ("The directive '@" ++ d.name.text ++ "' can only be used once at this location.")
          [first.start, d.start]
      | none => []

/-! ## Arguments -/

def knownArguments : Check σ
  | _, _, .argument f none a =>
    match f.parent, f.definition with
    | some o, some d =>
      [.at ("Unknown argument '" ++ a.name.text ++ "' on field '" ++ o.name ++ "." ++ d.name ++ "'." ++
        Suggestion.question (Suggestion.near a.name.text (d.arguments.map (·.name)))) [a.name.start]]
    | _, _ => []
  | _, _, .directive _ d =>
    match directive? d.name.text with
    | none => []
    | some known =>
      d.arguments.flatMap fun a =>
        faultIf (argument? known.arguments a.name.text).isNone
          ("Unknown argument '" ++ a.name.text ++ "' on directive '@" ++ known.name ++ "'." ++
            Suggestion.question (Suggestion.near a.name.text (known.arguments.map (·.name))))
          [a.name.start]
  | _, _, _ => []

def uniqueArguments : Check σ
  | _, _, .field f => onlyOneOfEach "argument" "" (f.field.arguments.map (·.name))
  | _, _, .directive _ d => onlyOneOfEach "argument" "" (d.arguments.map (·.name))
  | _, _, _ => []

def literalsFit : Check σ
  | s, _, .value (some type) l => (literalFaults s type l).map fun (message, start) => .at message [start]
  | _, _, _ => []

def missingArguments (definitions : List ArgumentDef) (given : List Argument) : List ArgumentDef :=
  definitions.filter fun a => a.isRequired && !(given.any fun g => g.name.text = a.name)

def requiredSentence (owner : Text) (a : ArgumentDef) : Text :=
  "Argument '" ++ owner ++ "(" ++ a.name ++ ":)' of type '" ++ a.type.shown ++
    "' is required, but it was not provided."

def requiredArguments : Check σ
  | _, _, .fieldEnd f =>
    match f.parent, f.definition with
    | some o, some d =>
      (missingArguments d.arguments f.field.arguments).map fun a =>
        .at (requiredSentence (o.name ++ "." ++ d.name) a) [f.field.start]
    | _, _ => []
  | _, _, .directiveEnd d =>
    match directive? d.name.text with
    | some known =>
      (missingArguments known.arguments d.arguments).map fun a =>
        .at (requiredSentence ("@" ++ known.name) a) [d.start]
    | none => []
  | _, _, _ => []

/-- Whether a variable may be used where a type is expected. A variable that may be null will do where
something must be there, if it or the place has a value to fall back on. -/
def fits (type : TypeUse) (hasValue : Bool) (expected : TypeUse) (hasDefault : Bool) : Bool :=
  match expected with
  | .required inner =>
    if type.isRequired then type.isPartOf expected
    else (hasValue || hasDefault) && type.isPartOf inner
  | expected => type.isPartOf expected

def isValue : Option Literal → Bool
  | some (.null _) => false
  | some _ => true
  | none => false

def variablesFit : Check σ
  | s, d, .operationEnd o =>
    (usagesOf s d o).flatMap fun u =>
      match (o.variableDefinitions.reverse.find? fun v => v.name.text = u.name), u.type with
      | some v, some expected =>
        match s.use? v.type with
        | some type =>
          faultIf (!fits type (isValue v.default?) expected u.hasDefault)
            ("Variable '$" ++ u.name ++ "' of type '" ++ type.shown ++
              "' used in position expecting type '" ++ expected.shown ++ "'.") [v.start, u.start]
        | none => []
      | _, _ => []
  | _, _, _ => []

mutual

def repeatedFields : Literal → List Fault
  | .list _ items => repeatedInItems items
  | .object _ fields => repeatedInFields [] fields
  | _ => []

def repeatedInItems : List Literal → List Fault
  | [] => []
  | l :: rest => repeatedFields l ++ repeatedInItems rest

def repeatedInFields (before : List Name) : List (Name × Literal) → List Fault
  | [] => []
  | (n, l) :: rest =>
    (match before.find? fun m => m.text = n.text with
      | some first =>
        [Fault.at ("There can be only one input field named '" ++ n.text ++ "'.") [first.start, n.start]]
      | none => []) ++
    repeatedFields l ++ repeatedInFields (before ++ [n]) rest

end

def uniqueInputFields : Check σ
  | _, _, .value _ l => repeatedFields l
  | _, _, _ => []

/-! ## Questions about the schema -/

def schemaQuestions : List Text := ["__schema", "__type"]

def widePaths : List Text := ["fields", "interfaces", "possibleTypes", "inputFields"]

def maxWidth : Nat := 3

mutual

/-- Whether a selection goes too wide. `width` counts the fields above that go to many types, `onWay`
holds the fragments on the way. -/
def goesTooWide (d : Document) : (fuel : Nat) → (onWay : List Text) → (width : Nat) → Selection → Bool
  | fuel, onWay, width, .field f body =>
    if widePaths.contains f.name.text then
      maxWidth ≤ width + 1 || anyGoesTooWide d fuel onWay (width + 1) body
    else anyGoesTooWide d fuel onWay width body
  | fuel, onWay, width, .inline _ body => anyGoesTooWide d fuel onWay width body
  | 0, _, _, .spread _ => false
  | fuel + 1, onWay, width, .spread p =>
    if onWay.contains p.name.text then false
    else
      match d.fragment? p.name.text with
      | some f => anyGoesTooWide d fuel (p.name.text :: onWay) width f.selections
      | none => false
termination_by fuel _ _ x => (fuel, sizeOf x)

def anyGoesTooWide (d : Document) :
    (fuel : Nat) → (onWay : List Text) → (width : Nat) → List Selection → Bool
  | _, _, _, [] => false
  | fuel, onWay, width, x :: rest =>
    goesTooWide d fuel onWay width x || anyGoesTooWide d fuel onWay width rest
termination_by fuel _ _ xs => (fuel, sizeOf xs)

end

/-- Questions about the schema do not go too wide. No fragment is on its own way twice, so the number
of fragments and one is enough fuel. -/
def narrowQuestions : Check σ
  | _, d, .field f =>
    faultIf (schemaQuestions.contains f.field.name.text &&
        anyGoesTooWide d (d.fragments.length + 1) [] 0 f.selections)
      "Maximum introspection depth exceeded" [f.field.start]
  | _, _, _ => []

end QueryGateway.Graph.Validation
