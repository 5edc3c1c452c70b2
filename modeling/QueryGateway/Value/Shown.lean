import QueryGateway.Value.Basic
import QueryGateway.Number.Notation
import QueryGateway.Text.Quoted

/-!
# How a value is shown

The text of a value in messages. A text shows as itself when it stands alone and in quotes when it
stands inside another value.
-/

namespace QueryGateway.Value

mutual

def inner : Value → Text
  | .null => "None"
  | .bool b => if b then "True" else "False"
  | .int n => Text.ofInt n
  | .real x => Number.plain.write x
  | .text t => Text.quoted t
  | .bytes b => Text.quotedBytes b
  | .list items => "[" ++ Text.join ", " (innerAll items) ++ "]"
  | .tuple [v] => "(" ++ inner v ++ ",)"
  | .tuple items => "(" ++ Text.join ", " (innerAll items) ++ ")"
  | .set [] => "set()"
  | .set items => "\x7b" ++ Text.join ", " (innerAll items) ++ "\x7d"
  | .map members => "\x7b" ++ Text.join ", " (innerMembers members) ++ "\x7d"
  | .endless false => "[[...]]"
  | .endless true => "\x7b'self': \x7b...\x7d\x7d"
  | .thing _ shown => shown

def innerAll : List Value → List Text
  | [] => []
  | v :: rest => inner v :: innerAll rest

def innerMembers : List (Value × Value) → List Text
  | [] => []
  | (k, v) :: rest => (inner k ++ ": " ++ inner v) :: innerMembers rest

end

def shown : Value → Text
  | .text t => t
  | v => inner v

end QueryGateway.Value
