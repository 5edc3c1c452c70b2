import QueryGateway.Graph.Fault
import QueryGateway.Graph.Inspection
import QueryGateway.Graph.Validation.Literals

/-!
# Values for variables and arguments

A query is run with values for its variables. Each is read as the type that its variable declares; a
variable without a value takes the one it falls back on, and has none if there is no such value. A
value of another kind is a fault.

Arguments take their values from literals and from variables.
-/

namespace QueryGateway.Graph

variable {σ : Type}

def Scalar.read? : Scalar → Value → Option Value
  | .string, .text t => some (.text t)
  | .boolean, .bool b => some (.bool b)
  | .id, .text t => some (.text t)
  | .id, .int n => some (.text (Text.ofInt n))
  | .id, .real x => x.toInt?.map fun n => .text (Text.ofInt n)
  | _, _ => none

def Scalar.valueSentence (t : Scalar) (v : Value) : Text :=
  match t with
  | .id => "ID cannot represent value: " ++ v.inspected
  | t => Validation.scalarSentence t v.inspected

def EnumDef.valueSentence (e : EnumDef) (v : Value) : Text :=
  match v with
  | .text t => "Value '" ++ t ++ "' does not exist in '" ++ e.name ++ "' enum."
  | v => "Enum '" ++ e.name ++ "' cannot represent non-string value: " ++ v.inspected ++ "."

def readNamed (s : Schema σ) (name : Text) (v : Value) : Except (List Text) Value :=
  match s.type? name with
  | some (.scalar t) =>
    match t.read? v with
    | some v => .ok v
    | none => .error [t.valueSentence v]
  | some (.enum e) =>
    match v with
    | .text t => if e.values.contains t then .ok v else .error [e.valueSentence v]
    | v => .error [e.valueSentence v]
  | _ => .ok v

def readAll {α : Type} (read : α → Except (List Text) Value) : List α → Except (List Text) (List Value)
  | [] => .ok []
  | a :: rest =>
    match read a, readAll read rest with
    | .ok v, .ok vs => .ok (v :: vs)
    | .ok _, .error ms => .error ms
    | .error ms, .ok _ => .error ms
    | .error ms, .error more => .error (ms ++ more)

/-- The value of a type, or what is wrong with it. A value where a list is expected is a list of one
item. -/
def readValue (s : Schema σ) : TypeUse → Value → Except (List Text) Value
  | .required type, .null => .error [Validation.nullSentence (.required type)]
  | .required type, v => readValue s type v
  | _, .null => .ok .null
  | .list type, .list items => (readAll (readValue s type) items).map .list
  | .list type, v => (readValue s type v).map fun v => .list [v]
  | .named name, v => readNamed s name v

/-! ## Literals -/

def literalValue : Literal → Value
  | .string _ t _ | .int _ t | .float _ t | .enum _ t => .text t
  | .bool _ b => .bool b
  | _ => .null

mutual

def evaluate (bindings : Members) : TypeUse → Literal → Option Value
  | type, .variable _ name =>
    match bindings.get? name with
    | some .null | none => if type.isRequired then none else bindings.get? name
    | some v => some v
  | .required _, .null _ => none
  | .required type, l => evaluate bindings type l
  | _, .null _ => some .null
  | .list type, .list _ items => (evaluateAll bindings type items).map .list
  | .list type, l => (evaluate bindings type l).map fun v => .list [v]
  | .named _, l => some (literalValue l)
termination_by type l => (sizeOf l, sizeOf type)

/-- The values that literals in a list write. A variable without a value is null. -/
def evaluateAll (bindings : Members) (type : TypeUse) : List Literal → Option (List Value)
  | [] => some []
  | l :: rest => do
    let v ← evaluate bindings type l <|> (if type.isRequired then none else some .null)
    let vs ← evaluateAll bindings type rest
    some (v :: vs)
termination_by items => (sizeOf items, sizeOf type + 1)

end

/-! ## Variables -/

def unprovided (type : TypeUse) : Text :=
  "Expected a value of non-null type '" ++ type.shown ++ "' to be provided."

def bindVariable (s : Schema σ) (given : Members) (v : VariableDefinition) :
    Except (List Text) (Option Value) :=
  let type := TypeUse.ofRef v.type
  match given.get? v.name.text, v.default? with
  | some value, _ => (readValue s type value).map some
  | none, some l => .ok (evaluate [] type l)
  | none, none => if type.isRequired then .error [unprovided type] else .ok none

def variableFault (v : VariableDefinition) (message : Text) : Fault :=
  .at ("Variable '$" ++ v.name.text ++ "' has invalid value: " ++ message) [v.start]

def bindVariables (s : Schema σ) (given : Members) :
    List VariableDefinition → Members × List Fault
  | [] => ([], [])
  | v :: rest =>
    let (bound, faults) := bindVariables s given rest
    match bindVariable s given v with
    | .ok (some value) => ((v.name.text, value) :: bound, faults)
    | .ok none => (bound, faults)
    | .error ms => (bound, ms.map (variableFault v) ++ faults)

def maxVariableFaults : Nat := 50

def tooManyVariableFaults : Fault :=
  .at "Too many errors processing variables, error limit reached. Execution aborted." []

def variableValues (s : Schema σ) (given : Members) (o : Operation) : Except (List Fault) Members :=
  match bindVariables s given o.variableDefinitions with
  | (bound, []) => .ok bound
  | (_, faults) =>
    .error (if maxVariableFaults < faults.length then
      faults.take maxVariableFaults ++ [tooManyVariableFaults] else faults)

/-! ## Arguments -/

def variableSentence (bindings : Members) (type : TypeUse) (name : Text) : Text :=
  if (bindings.get? name).isSome then
    "Expected variable '$" ++ name ++ "' provided to non-null type '" ++ type.shown ++
      "' not to be None."
  else
    "Expected variable '$" ++ name ++ "' provided to type '" ++ type.shown ++
      "' to provide a runtime value."

def argumentValue (owner : Text) (bindings : Members) (given : List Argument) (a : ArgumentDef) :
    Except Fault (Option Value) :=
  match given.find? fun g => g.name.text = a.name with
  | none => .ok a.default?
  | some g =>
    let missing : Bool :=
      match g.value with
      | .variable _ name => (bindings.get? name).isNone && !a.isRequired
      | _ => false
    if missing then .ok a.default?
    else
      match evaluate bindings a.type g.value, g.value with
      | some v, _ => .ok (some v)
      | none, .variable start name =>
        .error (.at ("Argument '" ++ owner ++ "(" ++ a.name ++ ":)' has invalid value: " ++
          variableSentence bindings a.type name) [start])
      | none, l =>
        .error (.at ("Argument '" ++ owner ++ "(" ++ a.name ++ ":)' has invalid value: " ++
          Validation.nullSentence a.type) [l.start])

/-- The values of arguments. `owner` is the field or directive that takes them. -/
def argumentValues (owner : Text) (bindings : Members) (given : List Argument) :
    List ArgumentDef → Except Fault Members
  | [] => .ok []
  | a :: rest => do
    let v ← argumentValue owner bindings given a
    let more ← argumentValues owner bindings given rest
    .ok (match v with
      | some v => (a.name, v) :: more
      | none => more)

end QueryGateway.Graph
