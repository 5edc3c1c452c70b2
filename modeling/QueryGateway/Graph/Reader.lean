import QueryGateway.Graph.Document

/-!
# Reading a query

The grammar of query documents, as a reader of tokens. Each rule takes the tokens from where it
begins and hands back what it read with the tokens behind it, or says which token it did not expect.
`Document.read` reads a whole query.

Rules that go into themselves take fuel. Every round takes a token or stands between two that do, so
a few units for each token are enough; `Document.read` supplies them.
-/

namespace QueryGateway.Graph

abbrev Rule (α : Type) := StateT (List Token) (Except SyntaxFault) α

namespace Rule

def fault (position : Nat) (message : Text) : SyntaxFault := ⟨position, "Syntax Error: " ++ message⟩

def fail {α : Type} (position : Nat) (message : Text) : Rule α :=
  StateT.lift (.error (fault position message))

def peek : Rule Token := do
  match (← get).head? with
  | some t => if t.kind = .fault then fail t.start t.text else pure t
  | none => pure ⟨.finish, [], 0⟩

def next : Rule Token := do
  let t ← peek
  modify fun ts => ts.drop 1
  pure t

def unexpected {α : Type} (t : Token) : Rule α := fail t.start ("Unexpected " ++ t.shown ++ ".")

def isMarkOf (m : Text) (t : Token) : Bool := t.kind = .mark && t.text = m

def isWord (w : Text) (t : Token) : Bool := t.kind = .name && t.text = w

def sees (m : Text) : Rule Bool := return isMarkOf m (← peek)

def takes (m : Text) : Rule Bool := do
  if ← sees m then
    let _ ← next
    pure true
  else pure false

def insteadOf {α : Type} (expected : Text) (t : Token) : Rule α :=
  fail t.start ("Expected " ++ expected ++ ", found " ++ t.shown ++ ".")

def mark (m : Text) : Rule Token := do
  let t ← peek
  if isMarkOf m t then next else insteadOf (quoted m) t

def word (w : Text) : Rule Token := do
  let t ← peek
  if isWord w t then next else insteadOf (quoted w) t

def takesWord (w : Text) : Rule Bool := do
  if isWord w (← peek) then
    let _ ← next
    pure true
  else pure false

def name : Rule Name := do
  let t ← peek
  if t.kind = .name then
    let _ ← next
    pure ⟨t.text, t.start⟩
  else insteadOf "Name" t

def upTo {α : Type} (close : Text) (item : Rule α) : Nat → Rule (List α)
  | 0 => pure []
  | fuel + 1 => do
    let a ← item
    if ← takes close then pure [a]
    else return a :: (← upTo close item fuel)

def between {α : Type} (opening close : Text) (item : Rule α) (fuel : Nat) : Rule (List α) := do
  let _ ← mark opening
  upTo close item fuel

def ifOpen {α : Type} (opening close : Text) (item : Rule α) (fuel : Nat) : Rule (List α) := do
  if ← takes opening then upTo close item fuel else pure []

end Rule

open Rule

/-! ## Literals and types -/

def wordLiteral (t : Token) : Literal :=
  if t.text = "true" then .bool t.start true
  else if t.text = "false" then .bool t.start false
  else if t.text = "null" then .null t.start
  else .enum t.start t.text

/-- A variable. Where only constants may stand it is a fault. -/
def variableLiteral (constant : Bool) : Rule Literal := do
  let dollar ← mark "$"
  if constant then
    let t ← peek
    if t.kind = .name then
      fail dollar.start ("Unexpected variable '$" ++ t.text ++ "' in constant value.")
    else unexpected dollar
  else return .variable dollar.start (← name).text

mutual

def literal (constant : Bool) : Nat → Rule Literal
  | 0 => do unexpected (← peek)
  | fuel + 1 => do
    let t ← peek
    match t.kind with
    | .int => let _ ← next; pure (.int t.start t.text)
    | .float => let _ ← next; pure (.float t.start t.text)
    | .string => let _ ← next; pure (.string t.start t.text false)
    | .block => let _ ← next; pure (.string t.start t.text true)
    | .name => let _ ← next; pure (wordLiteral t)
    | .mark =>
      if t.text = "[" then
        let _ ← next
        return .list t.start (← literals constant fuel)
      else if t.text = "\x7b" then
        let _ ← next
        return .object t.start (← literalFields constant fuel)
      else if t.text = "$" then variableLiteral constant
      else unexpected t
    | .finish | .fault => unexpected t

def literals (constant : Bool) : Nat → Rule (List Literal)
  | 0 => do unexpected (← peek)
  | fuel + 1 => do
    if ← takes "]" then pure []
    else
      let l ← literal constant fuel
      return l :: (← literals constant fuel)

def literalFields (constant : Bool) : Nat → Rule (List (Name × Literal))
  | 0 => do unexpected (← peek)
  | fuel + 1 => do
    if ← takes "\x7d" then pure []
    else
      let n ← name
      let _ ← mark ":"
      let l ← literal constant fuel
      return (n, l) :: (← literalFields constant fuel)

end

def typeRef : Nat → Rule TypeRef
  | 0 => do unexpected (← peek)
  | fuel + 1 => do
    let start := (← peek).start
    let inner ←
      if ← takes "[" then
        let item ← typeRef fuel
        let _ ← mark "]"
        pure (TypeRef.list start item)
      else pure (.named (← name))
    if ← takes "!" then pure (.required inner) else pure inner

/-! ## Arguments, directives, variables -/

def argument (constant : Bool) (fuel : Nat) : Rule Argument := do
  let n ← name
  let _ ← mark ":"
  return ⟨n, ← literal constant fuel⟩

def arguments (constant : Bool) (fuel : Nat) : Rule (List Argument) :=
  ifOpen "(" ")" (argument constant fuel) fuel

def directives (constant : Bool) : Nat → Rule (List Directive)
  | 0 => pure []
  | fuel + 1 => do
    if ← sees "@" then
      let sign ← next
      let n ← name
      let args ← arguments constant fuel
      return ⟨sign.start, n, args⟩ :: (← directives constant fuel)
    else pure []

def variableDefinition (fuel : Nat) : Rule VariableDefinition := do
  let dollar ← mark "$"
  let n ← name
  let _ ← mark ":"
  let type ← typeRef fuel
  let default? ← if ← takes "=" then some <$> literal true fuel else pure none
  return ⟨dollar.start, n, type, default?, ← directives true fuel⟩

/-! ## Selections -/

def fragmentName : Rule Name := do
  let t ← peek
  if isWord "on" t then unexpected t else name

mutual

def selection : Nat → Rule Selection
  | 0 => do unexpected (← peek)
  | fuel + 1 => do
    if ← sees "..." then
      let dots ← next
      if ← takesWord "on" then
        let condition ← name
        inlineBody dots.start (some condition) fuel
      else if (← peek).kind = .name then
        let n ← fragmentName
        return .spread ⟨dots.start, n, ← directives false fuel⟩
      else inlineBody dots.start none fuel
    else
      let first ← name
      let (alias?, n) ← if ← takes ":" then pure (some first, ← name) else pure (none, first)
      let args ← arguments false fuel
      let dirs ← directives false fuel
      let t ← peek
      if isMarkOf "\x7b" t then
        return .field ⟨alias?, n, args, dirs, some t.start⟩ (← selections fuel)
      else pure (.field ⟨alias?, n, args, dirs, none⟩ [])

def inlineBody (start : Nat) (condition : Option Name) : Nat → Rule Selection
  | 0 => do unexpected (← peek)
  | fuel + 1 => do
    let dirs ← directives false fuel
    let t ← peek
    return .inline ⟨start, condition, dirs, t.start⟩ (← selections fuel)

def selections : Nat → Rule (List Selection)
  | 0 => do unexpected (← peek)
  | fuel + 1 => do
    let _ ← mark "\x7b"
    moreSelections fuel

def moreSelections : Nat → Rule (List Selection)
  | 0 => do unexpected (← peek)
  | fuel + 1 => do
    let s ← selection fuel
    if ← takes "\x7d" then pure [s]
    else return s :: (← moreSelections fuel)

end

/-! ## Definitions -/

def operationBody (start : Nat) (kind : OperationKind) (fuel : Nat) : Rule Definition := do
  let n ← if (← peek).kind = .name then some <$> name else pure none
  let definitions ← ifOpen "(" ")" (variableDefinition fuel) fuel
  let dirs ← directives false fuel
  let brace := (← peek).start
  return .operation ⟨start, kind, n, definitions, dirs, brace, ← selections fuel⟩

def fragmentBody (start fuel : Nat) : Rule Definition := do
  let n ← fragmentName
  let _ ← word "on"
  let condition ← name
  let dirs ← directives false fuel
  let brace := (← peek).start
  return .fragment ⟨start, n, condition, dirs, brace, ← selections fuel⟩

/-- The fault of a text in front of a definition: no definition here is described. -/
def described (t : Token) : Rule Definition := do
  let _ ← next
  let keyword ← peek
  if keyword.kind = .name then
    fail t.start "Unexpected description, descriptions are supported only on definitions."
  else unexpected keyword

/-- A definition. A query without a name or a kind is its selections alone. -/
def definition (fuel : Nat) : Rule Definition := do
  let t ← peek
  if t.kind = .string ∨ t.kind = .block then described t
  else if isMarkOf "\x7b" t then
    return .operation ⟨t.start, .query, none, [], [], t.start, ← selections fuel⟩
  else if t.kind = .name then
    match OperationKind.ofWord? t.text with
    | some kind => do
      let _ ← next
      operationBody t.start kind fuel
    | none =>
      if t.text = "fragment" then
        let _ ← next
        fragmentBody t.start fuel
      else unexpected t
  else unexpected t

def definitionsToEnd (fuel : Nat) : Nat → Rule (List Definition)
  | 0 => pure []
  | rounds + 1 => do
    let d ← definition fuel
    if (← peek).kind = .finish then pure [d]
    else return d :: (← definitionsToEnd fuel rounds)

def Document.read (query : Text) : Except SyntaxFault Document :=
  let tokens := Token.ofText query
  let fuel := 4 * tokens.length + 4
  ((definitionsToEnd fuel (tokens.length + 1)).run tokens).map fun (ds, _) => ⟨ds⟩

end QueryGateway.Graph
