import QueryGateway.Value.Shown

/-!
# Values in messages of the engine

How a value shows in a message about a query. Long texts and long containers are cut in the middle,
and what is nested deeply shows as three points.
-/

namespace QueryGateway.Graph.Inspection

def maxLength : Nat := 240

def maxItems : Nat := 10

def maxDepth : Nat := 2

def shorten (t : Text) : Text :=
  if maxLength < t.length then
    let front := (maxLength - 3) / 2
    let back := maxLength - 3 - front
    t.take front ++ "..." ++ t.drop (t.length - back)
  else t

def shortenItems (items : List Text) : List Text :=
  if maxItems < items.length then
    let front := maxItems / 2
    let back := front - 1
    items.take front ++ [("..." : Text)] ++ items.drop (items.length - back)
  else items

/-- Items between two marks, or three points if they are nested too deeply. `empty` is what shows if
there are none. -/
def container (depth : Nat) (empty opening closing : Text) (items : List Text) : Text :=
  if items = [] then empty
  else if maxDepth ≤ depth then opening ++ "..." ++ closing
  else opening ++ Text.join ", " (shortenItems items) ++ closing

mutual

def shownAt (depth : Nat) : Value → Text
  | .null => Value.null.inner
  | .bool b => (Value.bool b).inner
  | .real x => (Value.real x).inner
  | .int n => shorten (Value.int n).inner
  | .text t => shorten (Value.text t).inner
  | .bytes b => shorten (Value.bytes b).inner
  | .list items => container depth "[]" "[" "]" (shownAll (depth + 1) items)
  | .tuple items =>
    container depth "()" "("
      (if items.length = 1 ∧ depth < maxDepth then ",)" else ")") (shownAll (depth + 1) items)
  | .set items =>
    if maxDepth ≤ depth then container depth "set()" "set(" ")" (shownAll (depth + 1) items)
    else container depth "set()" "\x7b" "\x7d" (shownAll (depth + 1) items)
  | .map members =>
    container depth "\x7b\x7d" "\x7b" "\x7d" (shownMembers (depth + 1) members)
  | .endless false => "[[...]]"
  | .endless true => "\x7b'self': \x7b...\x7d\x7d"
  | .thing .. => "<Opaque instance>"

def shownAll (depth : Nat) : List Value → List Text
  | [] => []
  | v :: rest => shownAt depth v :: shownAll depth rest

def shownMembers (depth : Nat) : List (Value × Value) → List Text
  | [] => []
  | (k, v) :: rest => (shownAt depth k ++ ": " ++ shownAt depth v) :: shownMembers depth rest

end

end QueryGateway.Graph.Inspection

namespace QueryGateway

def Value.inspected (v : Value) : Text := Graph.Inspection.shownAt 0 v

end QueryGateway
