import QueryGateway.Graph.Token

/-!
# Query documents

What a query says: operations, and fragments that they share. Every part that an error may point at
keeps the position of its first character.

A literal is written back by `Literal.shown`, which errors and the comparison of arguments use.
-/

namespace QueryGateway.Graph

structure Name where
  text : Text
  start : Nat
deriving DecidableEq, Repr

inductive TypeRef where
  | named (name : Name)
  | list (start : Nat) (item : TypeRef)
  | required (inner : TypeRef)
deriving DecidableEq, Repr

def TypeRef.start : TypeRef → Nat
  | .named name => name.start
  | .list start _ => start
  | .required inner => inner.start

def TypeRef.name : TypeRef → Name
  | .named name => name
  | .list _ item => item.name
  | .required inner => inner.name

inductive Literal where
  | variable (start : Nat) (name : Text)
  | int (start : Nat) (text : Text)
  | float (start : Nat) (text : Text)
  | string (start : Nat) (text : Text) (block : Bool)
  | bool (start : Nat) (b : Bool)
  | null (start : Nat)
  | enum (start : Nat) (name : Text)
  | list (start : Nat) (items : List Literal)
  | object (start : Nat) (fields : List (Name × Literal))
deriving Repr

def Literal.start : Literal → Nat
  | .variable start _ | .int start _ | .float start _ | .string start _ _ | .bool start _
  | .null start | .enum start _ | .list start _ | .object start _ => start

/-- An argument; it stands where its name stands. -/
structure Argument where
  name : Name
  value : Literal
deriving Repr

structure Directive where
  start : Nat
  name : Name
  arguments : List Argument
deriving Repr

structure Field where
  alias? : Option Name
  name : Name
  arguments : List Argument
  directives : List Directive
  brace : Option Nat
deriving Repr

def Field.start (f : Field) : Nat := (f.alias?.getD f.name).start

def Field.key (f : Field) : Text := (f.alias?.getD f.name).text

structure Spread where
  start : Nat
  name : Name
  directives : List Directive
deriving Repr

structure Inline where
  start : Nat
  condition : Option Name
  directives : List Directive
  brace : Nat
deriving Repr

inductive Selection where
  | field (f : Field) (selections : List Selection)
  | spread (s : Spread)
  | inline (i : Inline) (selections : List Selection)
deriving Repr

structure VariableDefinition where
  start : Nat
  name : Name
  type : TypeRef
  default? : Option Literal
  directives : List Directive
deriving Repr

inductive OperationKind where
  | query
  | mutation
  | subscription
deriving DecidableEq, Repr

def OperationKind.word : OperationKind → Text
  | .query => "query"
  | .mutation => "mutation"
  | .subscription => "subscription"

def OperationKind.ofWord? (t : Text) : Option OperationKind :=
  [.query, .mutation, .subscription].find? fun k : OperationKind => k.word = t

structure Operation where
  start : Nat
  kind : OperationKind
  name : Option Name
  variableDefinitions : List VariableDefinition
  directives : List Directive
  brace : Nat
  selections : List Selection
deriving Repr

structure Fragment where
  start : Nat
  name : Name
  condition : Name
  directives : List Directive
  brace : Nat
  selections : List Selection
deriving Repr

inductive Definition where
  | operation (o : Operation)
  | fragment (f : Fragment)
deriving Repr

structure Document where
  definitions : List Definition
deriving Repr

namespace Document

def operations (d : Document) : List Operation :=
  d.definitions.filterMap fun
    | .operation o => some o
    | .fragment _ => none

def fragments (d : Document) : List Fragment :=
  d.definitions.filterMap fun
    | .fragment f => some f
    | .operation _ => none

/-- The fragment of a name; of several the last one counts. -/
def fragment? (d : Document) (name : Text) : Option Fragment :=
  d.fragments.reverse.find? fun f => f.name.text = name

end Document

/-! ## Literals as text -/

def escapedInQuotes (c : CodePoint) : Text :=
  if c = '"' then "\\\""
  else if c = '\\' then "\\\\"
  else if c = '\n' then "\\n"
  else if c = '\r' then "\\r"
  else if c = '\t' then "\\t"
  else if c.val = 0x08 then "\\b"
  else if c.val = 0x0C then "\\f"
  else if c.val < 0x20 ∨ (0x7F ≤ c.val ∧ c.val ≤ 0x9F) then "\\u" ++ capitalHex c.val
  else [c]

def escapeTriples : Nat → Text → Text
  | 0, t => t
  | _ + 1, [] => []
  | fuel + 1, c :: rest =>
    match Text.dropStart? "\"\"\"" (c :: rest) with
    | some rest => "\\\"\"\"" ++ escapeTriples fuel rest
    | none => c :: escapeTriples fuel rest

def endsWith (t tail : Text) : Bool := Text.startsWith t.reverse tail.reverse

def shownBlock (t : Text) : Text :=
  let body := escapeTriples (t.length + 1) t
  let lines := splitLines body
  let single := lines.length = 1
  let mustLead := !single && (lines.drop 1).all fun l => l = [] || (l.take 1).all isIndent
  let endsTriple := endsWith body "\\\"\"\""
  let mustTrail := (endsWith t "\"" && !endsTriple) || endsWith t "\\"
  let several := !single || 70 < t.length || mustTrail || mustLead || endsTriple
  let noLead := single && t ≠ [] && (t.take 1).all isIndent
  ("\"\"\"" : Text) ++ (if (several && !noLead) || mustLead then "\n" else "") ++ body ++
    (if several || mustTrail then "\n" else "") ++ "\"\"\""

def shownString (t : Text) (block : Bool) : Text :=
  if block then shownBlock t else ("\"" : Text) ++ t.flatMap escapedInQuotes ++ "\""

mutual

def Literal.shown : Literal → Text
  | .variable _ name => "$" ++ name
  | .int _ t | .float _ t | .enum _ t => t
  | .string _ t block => shownString t block
  | .bool _ b => if b then "true" else "false"
  | .null _ => "null"
  | .list _ items => "[" ++ Text.join ", " (shownItems items) ++ "]"
  | .object _ fields => "\x7b " ++ Text.join ", " (shownFields fields) ++ " \x7d"

def shownItems : List Literal → List Text
  | [] => []
  | l :: rest => l.shown :: shownItems rest

def shownFields : List (Name × Literal) → List Text
  | [] => []
  | (name, l) :: rest => (name.text ++ ": " ++ l.shown) :: shownFields rest

end

def textLe : Text → Text → Bool
  | [], _ => true
  | _ :: _, [] => false
  | c :: s, d :: t => c.val < d.val || (c = d && textLe s t)

mutual

def Literal.sorted : Literal → Literal
  | .list start items => .list start (sortedItems items)
  | .object start fields =>
    .object start ((sortedFields fields).mergeSort fun a b => textLe a.1.text b.1.text)
  | l => l

def sortedItems : List Literal → List Literal
  | [] => []
  | l :: rest => l.sorted :: sortedItems rest

def sortedFields : List (Name × Literal) → List (Name × Literal)
  | [] => []
  | (name, l) :: rest => (name, l.sorted) :: sortedFields rest

end

end QueryGateway.Graph
