import QueryGateway.Number.Binary64
import QueryGateway.Text.Utf8

/-!
# Values

Collaborators hand over values that the gateway does not type: variables of a query, members of a
result, users, cache keys, fields of a log record. Not all of them have a JSON form. A `Value` is
whatever such a collaborator can hold: the JSON values, with integers of any size apart from floating
point numbers, then byte strings, tuples, sets, maps with any keys, a container that contains itself,
and things of which nothing but a text is known, and which of them it is.

Maps keep the order in which their members were given.
-/

namespace QueryGateway

inductive Value where
  | null
  | bool (b : Bool)
  | int (n : Int)
  | real (x : Binary64)
  | text (t : Text)
  | bytes (b : Bytes)
  | list (items : List Value)
  | tuple (items : List Value)
  | set (items : List Value)
  | map (members : List (Value × Value))
  /-- A list, or a map, that contains itself. -/
  | endless (isMap : Bool)
  /-- A thing that shows nothing but a text, and equals nothing but itself. -/
  | thing (which : Nat) (shown : Text)
deriving Repr, Inhabited

abbrev Members := List (Text × Value)

namespace Value

instance : Coe Text Value := ⟨.text⟩

mutual

/-- Whether two values are made alike, part by part. -/
def alike : Value → Value → Bool
  | .null, .null => true
  | .bool a, .bool b => a == b
  | .int m, .int n => m == n
  | .real x, .real y => x == y
  | .text s, .text t => s == t
  | .bytes a, .bytes b => a == b
  | .list items, .list others | .tuple items, .tuple others | .set items, .set others =>
    allAlike items others
  | .map members, .map others => membersAlike members others
  | .endless isMap, .endless isMap' => isMap == isMap'
  | .thing i s, .thing j t => i == j && s == t
  | _, _ => false

def allAlike : List Value → List Value → Bool
  | [], [] => true
  | v :: rest, w :: others => alike v w && allAlike rest others
  | _, _ => false

def membersAlike : List (Value × Value) → List (Value × Value) → Bool
  | [], [] => true
  | (k, v) :: rest, (l, w) :: others => alike k l && alike v w && membersAlike rest others
  | _, _ => false

end

instance : BEq Value := ⟨alike⟩

def object (members : Members) : Value := .map (members.map fun (k, v) => (.text k, v))

def kindName : Value → Text
  | .null => "NoneType"
  | .bool _ => "bool"
  | .int _ => "int"
  | .real _ => "float"
  | .text _ => "str"
  | .bytes _ => "bytes"
  | .list _ | .endless false => "list"
  | .tuple _ => "tuple"
  | .set _ => "set"
  | .map _ | .endless true => "dict"
  | .thing .. => "Opaque"

/-- Whether a value counts as something: not null, false, zero or empty. -/
def isTruthy : Value → Bool
  | .null => false
  | .bool b => b
  | .int n => n ≠ 0
  | .real x => !x.isZero
  | .text t => !t.isEmpty
  | .bytes b => !b.isEmpty
  | .list items | .tuple items | .set items => !items.isEmpty
  | .map members => !members.isEmpty
  | .endless _ | .thing .. => true

end Value

/-! ## Tables with texts as keys -/

namespace Members

def get? (members : Members) (name : Text) : Option Value :=
  (members.find? fun m => m.1 = name).map (·.2)

/-- The members with a name bound to a value: in its place if the name is there, else at the end. -/
def put (members : Members) (name : Text) (v : Value) : Members :=
  match members with
  | [] => [(name, v)]
  | (k, w) :: rest => if k = name then (k, v) :: rest else (k, w) :: put rest name v

def update (members more : Members) : Members := more.foldl (fun ms m => put ms m.1 m.2) members

end Members

end QueryGateway
