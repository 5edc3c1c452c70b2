import QueryGateway.Value.Basic

/-!
# Values as keys

Which values can be keys of a cache, and when two of them are the same key. Numbers are compared as
numbers, whatever they are written as: `1`, `1.0` and `true` are one key, also inside tuples, and the
comparison of an integer with a floating point number is exact. Containers that can change (lists,
sets, maps) are no keys, nor is a tuple that holds one.

A number that is no number, and a thing of which only a text is known, equal nothing else. As a key
each of them is itself: whoever still holds it finds what he stored.
-/

namespace QueryGateway

/-- What two values have in common that are the same key. -/
inductive Key where
  | null
  | int (n : Int)
  | real (x : Binary64)
  | text (t : Text)
  | bytes (b : Bytes)
  | tuple (items : List Key)
  | thing (which : Nat)
deriving Repr, Inhabited

namespace Key

/-- The key of a floating point number: that of the integer it equals, if there is one. -/
def ofReal (x : Binary64) : Key :=
  match x.toInt? with
  | some n => .int n
  | none => .real x

mutual

/-- The key of a value, or the kind of the part that cannot be one. -/
def ofValue : Value → Except Text Key
  | .null => .ok .null
  | .bool b => .ok (.int (if b then 1 else 0))
  | .int n => .ok (.int n)
  | .real x => .ok (ofReal x)
  | .text t => .ok (.text t)
  | .bytes b => .ok (.bytes b)
  | .tuple items =>
    match ofValues items with
    | .ok keys => .ok (.tuple keys)
    | .error kind => .error kind
  | .list items => .error (Value.list items).kindName
  | .set items => .error (Value.set items).kindName
  | .map members => .error (Value.map members).kindName
  | .endless isMap => .error (Value.endless isMap).kindName
  | .thing which _ => .ok (.thing which)

def ofValues : List Value → Except Text (List Key)
  | [] => .ok []
  | v :: rest =>
    match ofValue v, ofValues rest with
    | .error kind, _ => .error kind
    | .ok _, .error kind => .error kind
    | .ok key, .ok keys => .ok (key :: keys)

end

mutual

def same : Key → Key → Bool
  | .null, .null => true
  | .int m, .int n => m = n
  | .real x, .real y => x = y
  | .text s, .text t => s = t
  | .bytes a, .bytes b => a = b
  | .tuple ks, .tuple ls => sameAll ks ls
  | .thing i, .thing j => i = j
  | _, _ => false

def sameAll : List Key → List Key → Bool
  | [], [] => true
  | k :: ks, l :: ls => same k l && sameAll ks ls
  | _, _ => false

end

end Key

end QueryGateway
