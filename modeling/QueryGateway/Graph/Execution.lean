import QueryGateway.Failure.Report
import QueryGateway.Graph.Variables

/-!
# Running an operation

An operation selects fields from objects, from the root down. Fields of the same name in the result
are one field; each is resolved once, in order of first mention, and its value is brought into the
form of its type.

A fault ends the field in which it arises: the field is null, and the fault is kept with its place in
the result. Where the type of the field rules out null, the fault goes on to the field around it.

Every level of the result goes into selections that the levels above are not part of, so the number
of selections in the document bounds the depth; it is the fuel.
-/

namespace QueryGateway.Graph

variable {σ : Type}

/-- A run of an operation: the state of the resolvers, and the faults of fields that are null. -/
abbrev Running (σ : Type) := ExceptT Fault (StateM (σ × List Fault))

def faulty {σ α : Type} (f : Fault) : Running σ α := ExceptT.mk (pure (.error f))

def Running.ofExcept {σ α : Type} : Except Fault α → Running σ α
  | .ok a => pure a
  | .error f => faulty f

/-- What every part of a run needs: the schema, the document, and the values of the variables. -/
structure Setting (σ : Type) where
  schema : Schema σ
  document : Document
  bindings : Members

/-! ## Which fields are selected -/

def choice? (bindings : Members) (name : Text) (ds : List Directive) :
    Except Fault (Option Value) :=
  match ds.find? fun d => d.name.text = name, directive? name with
  | some d, some known =>
    (argumentValues ("@" ++ name) bindings d.arguments known.arguments).map fun args =>
      args.get? "if"
  | _, _ => .ok none

def isChosen (bindings : Members) (ds : List Directive) : Except Fault Bool := do
  match ← choice? bindings "skip" ds with
  | some (.bool true) => .ok false
  | _ =>
    match ← choice? bindings "include" ds with
    | some (.bool false) => .ok false
    | _ => .ok true

/-- A field of the result: all the fields of the document that become it. -/
structure Group where
  key : Text
  first : Field × List Selection
  more : List (Field × List Selection)

def Group.all (g : Group) : List (Field × List Selection) := g.first :: g.more

def Group.positions (g : Group) : List Nat := g.all.map fun f => f.1.start

def addField (groups : List Group) (f : Field) (body : List Selection) : List Group :=
  match groups with
  | [] => [⟨f.key, (f, body), []⟩]
  | g :: rest =>
    if g.key = f.key then { g with more := g.more ++ [(f, body)] } :: rest
    else g :: addField rest f body

structure Collected where
  groups : List Group
  fragments : List Text

mutual

def collectOne (e : Setting σ) (type : Text) :
    Nat → Selection → Collected → Except Fault Collected
  | _, .field f body, c => do
    if ← isChosen e.bindings f.directives then
      .ok { c with groups := addField c.groups f body }
    else .ok c
  | 0, _, c => .ok c
  | fuel + 1, .spread p, c => do
    if c.fragments.contains p.name.text then .ok c
    else if ← isChosen e.bindings p.directives then
      match e.document.fragment? p.name.text with
      | none => .ok c
      | some f =>
        let c := { c with fragments := c.fragments ++ [p.name.text] }
        if f.condition.text = type then collectAll e type fuel f.selections c else .ok c
    else .ok c
  | fuel + 1, .inline i body, c => do
    if ← isChosen e.bindings i.directives then
      if (i.condition.all fun n => n.text = type) then collectAll e type fuel body c else .ok c
    else .ok c
termination_by fuel x => (fuel, sizeOf x)

def collectAll (e : Setting σ) (type : Text) :
    Nat → List Selection → Collected → Except Fault Collected
  | _, [], c => .ok c
  | fuel, x :: rest, c => do collectAll e type fuel rest (← collectOne e type fuel x c)
termination_by fuel xs => (fuel, sizeOf xs)

end

def collect (e : Setting σ) (type : Text) (fuel : Nat) (bodies : List (List Selection)) :
    Except Fault (List Group) :=
  (bodies.foldlM (fun c body => collectAll e type fuel body c) ⟨[], []⟩).map (·.groups)

/-! ## Values of fields -/

def Scalar.write (t : Scalar) (v : Value) : Except Text Value :=
  match t, v with
  | .string, .text _ => .ok v
  | .string, .bool b => .ok (.text (if b then "true" else "false"))
  | .string, .int n => .ok (.text (Text.ofInt n))
  | .string, .real x =>
    if x.isFinite then .ok (.text v.shown)
    else .error ("String cannot represent value: " ++ v.inspected)
  | .string, .thing _ t => .ok (.text t)
  | .string, v => .error ("String cannot represent value: " ++ v.inspected)
  | .boolean, .bool _ => .ok v
  | .boolean, .int n => .ok (.bool (n ≠ 0))
  | .boolean, v => .error ("Boolean cannot represent a non boolean value: " ++ v.inspected)
  | .id, .text _ => .ok v
  | .id, .int n => .ok (.text (Text.ofInt n))
  | .id, .thing _ t => .ok (.text t)
  | .id, .real x =>
    match x.toInt? with
    | some n => .ok (.text (Text.ofInt n))
    | none => .error ("ID cannot represent value: " ++ v.inspected)
  | .id, v => .error ("ID cannot represent value: " ++ v.inspected)

def EnumDef.write (e : EnumDef) (v : Value) : Except Text Value :=
  match v with
  | .text t =>
    if e.values.contains t then .ok v
    else .error ("Enum '" ++ e.name ++ "' cannot represent value: " ++ v.inspected)
  | v => .error ("Enum '" ++ e.name ++ "' cannot represent value: " ++ v.inspected)

def listItems? : Value → Option (List Value)
  | .list items | .tuple items | .set items => some items
  | _ => none

/-- Where a value stands: the positions of its field in the query, its place in the result, and the
names by which messages refer to the field. -/
structure Spot where
  positions : List Nat
  path : List Value
  owner : Text

def Spot.fault (spot : Spot) (message : Text) : Fault := ⟨message, spot.positions, spot.path⟩

/-- A value that may be null: it is, if bringing it into its form ends with a fault. -/
def orNull (run : Running σ Value) : Running σ Value :=
  ExceptT.mk do
    match ← run.run with
    | .ok v => pure (.ok v)
    | .error f =>
      modify fun (state, faults) => (state, faults ++ [f])
      pure (.ok .null)

def settle (type : TypeUse) (run : Running σ Value) : Running σ Value :=
  if type.isRequired then run else orNull run

/-- Several values one after the other; `n` is the number of the first. -/
def numbered (complete : Nat → Value → Running σ Value) (n : Nat) :
    List Value → Running σ (List Value)
  | [] => pure []
  | v :: rest => return (← complete n v) :: (← numbered complete (n + 1) rest)

/-- A value in the form of its type. `object` brings objects into theirs. -/
def complete (s : Schema σ) (object : ObjectDef σ → Spot → Value → Running σ Value) :
    TypeUse → Spot → Value → Running σ Value
  | .required type, spot, v => do
    match ← complete s object type spot v with
    | .null =>
      faulty (spot.fault ("Cannot return null for non-nullable field " ++ spot.owner ++ "."))
    | v => pure v
  | _, _, .null => pure .null
  | .list type, spot, v =>
    match listItems? v with
    | none =>
      faulty (spot.fault ("Expected Iterable, but did not find one for field '" ++ spot.owner ++ "'."))
    | some items =>
      .list <$> numbered (fun n item =>
        settle type (complete s object type { spot with path := spot.path ++ [.int n] } item)) 0 items
  | .named name, spot, v =>
    match s.type? name with
    | some (.object o) => object o spot v
    | some (.scalar t) =>
      match t.write v with
      | .ok v => pure v
      | .error message => faulty (spot.fault message)
    | some (.enum e) =>
      match e.write v with
      | .ok v => pure v
      | .error message => faulty (spot.fault message)
    | none => pure v

def resolve (d : FieldDef σ) (spot : Spot) (source : Value) (args : Members) : Running σ Value := do
  let (state, faults) ← get
  let (outcome, state) := d.resolve source args state
  set (state, faults)
  match outcome with
  | .ok v => pure v
  | .error f => faulty (spot.fault f.message)

/-- The arguments of a field; a fault of theirs has its own position and the place of the field. -/
def fieldArguments (e : Setting σ) (spot : Spot) (f : Field) (d : FieldDef σ) : Running σ Members :=
  match argumentValues spot.owner e.bindings f.arguments d.arguments with
  | .ok args => pure args
  | .error fault => faulty { fault with path := spot.path }

/-- Fields one after the other. A field that the type does not have is left out. -/
def eachGroup (run : Group → Running σ (Option Value)) : List Group → Running σ Members
  | [] => pure []
  | g :: rest => do
    match ← run g with
    | some v => return (g.key, v) :: (← eachGroup run rest)
    | none => eachGroup run rest

/-- The members of an object: the groups of fields that are selected from it. -/
def objectMembers (e : Setting σ) :
    (fuel : Nat) → ObjectDef σ → (path : List Value) → Value → List Group → Running σ Members
  | 0, _, _, _, _ => pure []
  | fuel + 1, o, path, source, groups =>
    eachGroup (fun g => do
      match e.schema.field? o g.first.1.name.text with
      | none => pure none
      | some d =>
        let spot : Spot := ⟨g.positions, path ++ [.text g.key], o.name ++ "." ++ d.name⟩
        let below (inner : ObjectDef σ) (spot : Spot) (v : Value) : Running σ Value :=
          match collect e inner.name (fuel + 1) (g.all.map (·.2)) with
          | .error fault => faulty { fault with path := spot.path }
          | .ok groups => Value.object <$> objectMembers e fuel inner spot.path v groups
        some <$> settle d.type (do
          let args ← fieldArguments e spot g.first.1 d
          let v ← resolve d spot source args
          complete e.schema below d.type spot v)) groups

/-! ## Operations -/

def ambiguous : Fault :=
  .at "Must provide operation name if query contains multiple operations." []

def noOperation : Fault := .at "Must provide an operation." []

def chosenOperation (d : Document) (name : Option Text) : Except Fault Operation :=
  match name with
  | some n =>
    match d.operations.reverse.find? fun o => (o.name.map (·.text)) = some n with
    | some o => .ok o
    | none => .error (.at ("Unknown operation named '" ++ n ++ "'.") [])
  | none =>
    match d.operations with
    | [] => .error noOperation
    | [o] => .ok o
    | _ => .error ambiguous

mutual

def levels : List Selection → Nat
  | [] => 1
  | x :: rest => max (levelsOf x) (levels rest)

def levelsOf : Selection → Nat
  | .field _ body => 1 + levels body
  | .inline _ body => 1 + levels body
  | .spread _ => 1

end

def depth (d : Document) : Nat :=
  1 + (d.definitions.map fun
    | .operation o => levels o.selections
    | .fragment f => 1 + levels f.selections).foldl (· + ·) 0

/-- What an operation gives: the data, null if a fault went all the way up, and the faults. -/
def run (e : Setting σ) (o : Operation) (state : σ) : Value × List Fault × σ :=
  let fuel := depth e.document
  let members : Running σ Members := do
    let groups ← Running.ofExcept (collect e e.schema.root.name fuel [o.selections])
    objectMembers e fuel e.schema.root [] .null groups
  match (members.run).run (state, []) with
  | (.ok ms, state, faults) => (Value.object ms, faults, state)
  | (.error f, state, faults) => (.null, faults ++ [f], state)

end QueryGateway.Graph
