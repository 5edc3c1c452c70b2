import QueryGateway.Value.Shown

/-!
# Complaints about a record

A record that arrives from outside (an event, a query envelope, a key record, the settings) is read
field by field. Each field that cannot be read gives one `Complaint`: where, and why. A `Rejection`
collects the complaints about one record, in the order of its fields, under the name of the record.
-/

namespace QueryGateway.Form

inductive Fault where
  | missing
  | textKind
  | textSurrogate
  | mapKind
  | listKind
  | recordKind
  | boolKind
  | boolWording
  | integerKind
  | integerWording
  | integerSize
  | integerFraction
  | notFinite
  | jsonInvalid
  | frozen
deriving DecidableEq, Repr

def Fault.code : Fault → Text
  | .missing => "missing"
  | .textKind => "string_type"
  | .textSurrogate => "string_unicode"
  | .mapKind => "dict_type"
  | .listKind => "list_type"
  | .recordKind => "model_type"
  | .boolKind => "bool_type"
  | .boolWording => "bool_parsing"
  | .integerKind => "int_type"
  | .integerWording => "int_parsing"
  | .integerSize => "int_parsing_size"
  | .integerFraction => "int_from_float"
  | .notFinite => "finite_number"
  | .jsonInvalid => "json_invalid"
  | .frozen => "frozen_instance"

/-- A step on the way to a field: the name of a member or the number of an item. -/
inductive Step where
  | name (t : Text)
  | index (n : Int)
deriving DecidableEq, Repr

def Step.shown : Step → Text
  | .name t => t
  | .index n => Text.ofInt n

def Step.named (t : Text) : Step := .name (Utf8.decodeLossy (Utf8.encode t))

/-- The step to a member of a map, whatever its key is. An integer that fits into a word of the machine
is a number. -/
def Step.ofKey : Value → Step
  | .text t => .named t
  | .int n => if Number.fitsWord 64 n then .index n else .name (Text.ofInt n)
  | .bool b => .index (if b then 1 else 0)
  | v => .named v.inner

structure Complaint where
  path : List Step
  fault : Fault
deriving DecidableEq, Repr

def Complaint.under (step : Step) (c : Complaint) : Complaint := { c with path := step :: c.path }

def Complaint.dotted (c : Complaint) : Text := Text.join "." (c.path.map Step.shown)

/-- The complaints about one record, in order. -/
structure Rejection where
  title : Text
  complaints : List Complaint
deriving DecidableEq, Repr

/-- The lines that report a rejection: how many faults there are in what, then the way to each. A
fault of the record as a whole has no line. -/
def Rejection.lines (r : Rejection) : List Text :=
  let n := r.complaints.length
  (Text.ofNat n ++ (if n = 1 then " validation error for " else " validation errors for ") ++ r.title)
    :: (r.complaints.map Complaint.dotted).filter fun t => t ≠ []

end QueryGateway.Form
