import QueryGateway.Form.Complaint
import QueryGateway.Number.Reading

/-!
# Reading fields

What counts as a text, a truth value, a number or a table when a field of a record is read. Reading
is lenient in fixed ways: bytes that are UTF-8 count as text, the usual words and the numbers zero and
one count as truth values, a number without a fraction and a text that names one count as integers.
A text is taken as it is; only where it has to name something else are lone surrogates refused.

A field may be known by two names; the first one decides if it is there at all.
-/

namespace QueryGateway.Form

abbrev Reading (α : Type) := Except (List Complaint) α

def fail {α : Type} (fault : Fault) : Reading α := .error [⟨[], fault⟩]

/-- What was read under a step: complaints are about the place behind that step. -/
def under {α : Type} (step : Step) : Reading α → Reading α
  | .ok a => .ok a
  | .error cs => .error (cs.map (Complaint.under step))

/-- Two readings side by side; the complaints of both are kept. -/
def both {α β : Type} : Reading α → Reading β → Reading (α × β)
  | .ok a, .ok b => .ok (a, b)
  | .ok _, .error cs => .error cs
  | .error cs, .ok _ => .error cs
  | .error cs, .error ds => .error (cs ++ ds)

/-- Readings in a row; the complaints of all are kept. -/
def each {α β : Type} (read : α → Reading β) : List α → Reading (List β)
  | [] => .ok []
  | a :: rest =>
    match both (read a) (each read rest) with
    | .ok (b, bs) => .ok (b :: bs)
    | .error cs => .error cs

/-- The complaints of a reading, under the name of a record. -/
def titled {α : Type} (title : Text) : Reading α → Except Rejection α
  | .ok a => .ok a
  | .error cs => .error ⟨title, cs⟩

/-! ## Kinds of fields -/

def text : Value → Reading Text
  | .text t => .ok t
  | .bytes b =>
    match Utf8.decode? b with
    | some t => .ok t
    | none => fail .textSurrogate
  | _ => fail .textKind

def optionalText : Value → Reading (Option Text)
  | .null => .ok none
  | v => (text v).map some

def boolWord? (t : Text) : Option Bool :=
  let word := Text.asciiLower t
  if word = "true" ∨ word = "t" ∨ word = "yes" ∨ word = "y" ∨ word = "on" ∨ word = "1" then some true
  else if word = "false" ∨ word = "f" ∨ word = "no" ∨ word = "n" ∨ word = "off" ∨ word = "0" then
    some false
  else none

def boolOfText (t : Text) : Reading Bool :=
  match boolWord? t with
  | some b => .ok b
  | none => fail .boolWording

def bool : Value → Reading Bool
  | .bool b => .ok b
  | .int n =>
    if n = 0 then .ok false
    else if n = 1 then .ok true
    else if Number.fitsWord 64 n then fail .boolWording
    else fail .boolKind
  | .real x =>
    match x.toInt? with
    | some 0 => .ok false
    | some 1 => .ok true
    | _ => fail .boolKind
  | .text t => if t.isScalar then boolOfText t else fail .textSurrogate
  | .bytes b =>
    match Utf8.decode? b with
    | some t => boolOfText t
    | none => fail .boolWording
  | _ => fail .boolKind

def integerOfText (t : Text) : Reading Int :=
  match Number.integer? t with
  | .ok n => .ok n
  | .error .notAnInteger => fail .integerWording
  | .error .tooLong => fail .integerSize

def integer : Value → Reading Int
  | .int n => .ok n
  | .bool b => .ok (if b then 1 else 0)
  | .real x =>
    if x.isFinite then
      match x.toInt? with
      | some n => if n.natAbs < Number.twoPow 63 then .ok n else fail .integerSize
      | none => fail .integerFraction
    else fail .notFinite
  | .text t => if t.isScalar then integerOfText t else fail .textSurrogate
  | .bytes b =>
    match Utf8.decode? b with
    | some t => integerOfText t
    | none => fail .integerWording
  | _ => fail .integerKind

/-- A table with texts as names. Complaints about a name stand behind its key and the mark `[key]`. -/
def table {α : Type} (read : Value → Reading α) : Value → Reading (List (Text × α))
  | .map members =>
    (each (fun (k, v) =>
        both (under (.ofKey k) (under (.name "[key]") (text k))) (under (.ofKey k) (read v)))
      members).map
      fun ms => ms.foldl (fun done m => put done m.1 m.2) []
  | _ => fail .mapKind
where
  put (done : List (Text × α)) (name : Text) (v : α) : List (Text × α) :=
    match done with
    | [] => [(name, v)]
    | (k, w) :: rest => if k = name then (k, v) :: rest else (k, w) :: put rest name v

def any (v : Value) : Reading Value := .ok v

def nullAsEmpty {α : Type} (read : Value → Reading (List α)) : Value → Reading (List α)
  | .null => .ok []
  | v => read v

/-! ## Fields of a record -/

def named (members : List (Value × Value)) : Members :=
  members.filterMap fun
    | (.text k, v) => some (k, v)
    | _ => none

def find? (members : Members) : List Text → Option (Text × Value)
  | [] => none
  | name :: more =>
    match Members.get? members name with
    | some v => some (name, v)
    | none => find? members more

def required {α : Type} (members : Members) (names : List Text) (read : Value → Reading α) :
    Reading α :=
  match find? members names with
  | some (name, v) => under (.name name) (read v)
  | none => under (.name (names.headD [])) (fail .missing)

def optional {α : Type} (members : Members) (names : List Text) (default : α)
    (read : Value → Reading α) : Reading α :=
  match find? members names with
  | some (name, v) => under (.name name) (read v)
  | none => .ok default

end QueryGateway.Form
