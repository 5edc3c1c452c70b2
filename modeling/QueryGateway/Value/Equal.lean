import QueryGateway.Value.Key

/-!
# Equal values

When two values are equal: numbers as numbers, whatever they are written as, lists and tuples item by
item, and maps as tables, without regard to the order of their members. What is no number, and a
thing of which only a text is known, are equal to themselves here, as they are inside a container.
-/

namespace QueryGateway.Value

def memberOf? (k : Value) (members : List (Value × Value)) : Option Value :=
  match Key.ofValue k with
  | .error _ => none
  | .ok key =>
    (members.find? fun m =>
      match Key.ofValue m.1 with
      | .ok l => l.same key
      | .error _ => false).map (·.2)

/-- Two values of which none holds others, compared as keys. -/
def sameLeaf (v w : Value) : Bool :=
  match Key.ofValue v, Key.ofValue w with
  | .ok k, .ok l => k.same l
  | _, _ => false

mutual

def equal : Value → Value → Bool
  | .list vs, .list ws => equalAll vs ws
  | .tuple vs, .tuple ws => equalAll vs ws
  | .map ms, .map ns => ms.length = ns.length && includedIn ms ns
  | .set vs, .set ws => vs.length = ws.length && vs.all fun v => ws.any (sameLeaf v)
  | v, w => sameLeaf v w

def equalAll : List Value → List Value → Bool
  | [], [] => true
  | v :: vs, w :: ws => equal v w && equalAll vs ws
  | _, _ => false

def includedIn : List (Value × Value) → List (Value × Value) → Bool
  | [], _ => true
  | (k, v) :: rest, ns =>
    (match memberOf? k ns with
      | some w => equal v w
      | none => false) && includedIn rest ns

end

end QueryGateway.Value
