import QueryGateway.Value.Shown

/-!
# Writing JSON

One writer for all documents of the gateway. A `Style` holds what they differ in: the marks between
items and after names, which characters are escaped, the text of a number that is not finite, what
becomes of a value without a JSON form, and which keys a map may have.

* `response`: the body of a response. Compact and pure ASCII; what has no JSON form is refused.
* `record`: a line of the log. Spaced and pure ASCII; what has no JSON form is shown as a text.
* `envelope`: a query envelope or a key record. Compact, characters beyond ASCII stand for
  themselves, a number that is not finite becomes null and bytes become text.

The fault that is reported is the first one on the way through the document, a container before its
content and a key before its value. Containers are written by calls inside one another, and where
these are limited a document that is nested too deep is one more fault.
-/

namespace QueryGateway.Json

open Value

/-- Why a value cannot be written. -/
inductive WriteFault where
  | notFinite
  | noJsonForm (kindName : Text)
  | badKey (kindName : Text)
  | containsItself
  | tooManyDigits
  | notUtf8
  | tooDeep (doing : Text)
deriving DecidableEq, Repr

def WriteFault.message : WriteFault → Text
  | .notFinite => "Out of range float values are not JSON compliant"
  | .noJsonForm kindName =>
    ("Object of type " : Text) ++ kindName ++ " is not JSON serializable"
  | .badKey kindName =>
    ("keys must be str, int, float, bool or None, not " : Text) ++ kindName
  | .containsItself => "Circular reference detected"
  | .tooManyDigits =>
    ("Exceeds the limit (4300 digits) for integer string conversion; " : Text) ++
      "use sys.set_int_max_str_digits() to increase the limit"
  | .notUtf8 => "invalid utf-8 sequence"
  | .tooDeep doing => ("maximum recursion depth exceeded" : Text) ++ doing

def WriteFault.className : WriteFault → Text
  | .noJsonForm _ | .badKey _ => "TypeError"
  | .tooDeep _ => "RecursionError"
  | _ => "ValueError"

/-! ## Escapes -/

def shortEscape? (c : CodePoint) : Option Text :=
  if c = '"' then some "\\\""
  else if c = '\\' then some "\\\\"
  else if c = '\n' then some "\\n"
  else if c = '\r' then some "\\r"
  else if c = '\t' then some "\\t"
  else if c.val = 0x08 then some "\\b"
  else if c.val = 0x0C then some "\\f"
  else none

def unitEscape (unit : Nat) : Text := "\\u" ++ Text.hex 4 unit

def numberEscape (c : CodePoint) : Text :=
  if c.val < 0x10000 then unitEscape c.val
  else unitEscape (0xD800 + (c.val - 0x10000) / 0x400) ++
    unitEscape (0xDC00 + (c.val - 0x10000) % 0x400)

def asciiEscape (c : CodePoint) : Text :=
  match shortEscape? c with
  | some e => e
  | none => if c.isPrintableAscii then [c] else numberEscape c

def plainEscape (c : CodePoint) : Text :=
  match shortEscape? c with
  | some e => e
  | none => if c.val < 0x20 then numberEscape c else [c]

def quote (escape : CodePoint → Text) (t : Text) : Text := "\"" ++ t.flatMap escape ++ "\""

/-! ## Styles -/

inductive NotFinite where
  | refused
  | named
  | null
deriving DecidableEq, Repr

/-- What becomes of a value without a JSON form: it is refused, it is shown as a text, or its data
is written, bytes as text and a set as a list. -/
inductive Foreign where
  | refused
  | shown
  | data
deriving DecidableEq, Repr

/-- What the documents of the gateway differ in. -/
structure Style where
  itemMark : Text
  nameMark : Text
  escape : CodePoint → Text
  layout : Number.Layout
  notFinite : NotFinite
  foreign : Foreign
  /-- Whether the document is made of UTF-8, in which a text with a lone surrogate has no form. -/
  inUtf8 : Bool

def Style.response : Style where
  itemMark := ","
  nameMark := ":"
  escape := asciiEscape
  layout := Number.plain
  notFinite := .refused
  foreign := .refused
  inUtf8 := false

def Style.record : Style where
  itemMark := ", "
  nameMark := ": "
  escape := asciiEscape
  layout := ⟨-4, 16, 2, "NaN", "Infinity"⟩
  notFinite := .named
  foreign := .shown
  inUtf8 := false

def Style.envelope : Style where
  itemMark := ","
  nameMark := ":"
  escape := plainEscape
  layout := Number.envelope
  notFinite := .null
  foreign := .data
  inUtf8 := true

def maxDigits : Nat := 4300

def integer (n : Int) : Except WriteFault Text :=
  let t := Text.ofNat n.natAbs
  if maxDigits < t.length then .error .tooManyDigits else .ok (if n < 0 then "-" ++ t else t)

def real (style : Style) (x : Binary64) : Except WriteFault Text :=
  if x.isFinite then .ok (style.layout.write x)
  else
    match style.notFinite with
    | .refused => .error .notFinite
    | .named => .ok (style.layout.write x)
    | .null => .ok "null"

def text (style : Style) (t : Text) : Except WriteFault Text :=
  if style.inUtf8 && !t.isScalar then .error .notUtf8 else .ok (quote style.escape t)

/-- The name of a member: texts, numbers and constants can be names. In UTF-8 what has no form in a
name is replaced. -/
def name (style : Style) : Value → Except WriteFault Text
  | .text t =>
    .ok (quote style.escape (if style.inUtf8 then Utf8.decodeLossy (Utf8.encode t) else t))
  | .null => .ok (quote style.escape "null")
  | .bool b => .ok (quote style.escape (if b then "true" else "false"))
  | .int n => (integer n).map (quote style.escape)
  | .real x => (real style x).map (quote style.escape)
  | v => .error (.badKey v.kindName)

/-! ## The writer -/

def foreignLeaf (style : Style) (v : Value) : Except WriteFault Text :=
  match style.foreign, v with
  | .shown, v => .ok (quote style.escape v.shown)
  | .data, .bytes b =>
    match Utf8.decode? b with
    | some t => .ok (quote style.escape t)
    | none => .error .notUtf8
  | _, v => .error (.noJsonForm v.kindName)

def brackets (style : Style) (items : List Text) : Text :=
  "[" ++ Text.join style.itemMark items ++ "]"

def braces (style : Style) (members : List Text) : Text :=
  "\x7b" ++ Text.join style.itemMark members ++ "\x7d"

/-- How many calls may still be made inside one another, if that is limited. -/
abbrev Room := Option Nat

def inside (doing : Text) : Room → Except WriteFault Room
  | none => .ok none
  | some 0 => .error (.tooDeep doing)
  | some (n + 1) => .ok (some n)

def insideContainer : Room → Except WriteFault Room := inside " while encoding a JSON object"

/-- What has no JSON form is left to a function, which makes one more call. -/
def insideForeign (room : Room) : Except WriteFault Room := do
  inside " while calling a Python object" (← inside "" room)

mutual

/-- The JSON text of a value, as far as there is room. -/
def writeWithin (style : Style) (room : Room) : Value → Except WriteFault Text
  | .null => .ok "null"
  | .bool b => .ok (if b then "true" else "false")
  | .int n => integer n
  | .real x => real style x
  | .text t => text style t
  | .list items | .tuple items => do
    let room ← insideContainer room
    (writeItemsWithin style room items).map (brackets style)
  | .map members => do
    let room ← insideContainer room
    (writeMembersWithin style room members).map (braces style)
  | .set items =>
    match style.foreign with
    | .data => do
      let room ← insideContainer room
      (writeItemsWithin style room items).map (brackets style)
    | _ => do
      let _ ← insideForeign room
      foreignLeaf style (.set items)
  | .endless _ => do
    -- only inside itself is the container met again
    let _ ← insideContainer (← insideContainer room)
    .error .containsItself
  | .bytes b => do
    let _ ← insideForeign room
    foreignLeaf style (.bytes b)
  | .thing object shown => do
    let _ ← insideForeign room
    foreignLeaf style (.thing object shown)

def writeItemsWithin (style : Style) (room : Room) : List Value → Except WriteFault (List Text)
  | [] => .ok []
  | v :: rest => do
    let first ← writeWithin style room v
    let more ← writeItemsWithin style room rest
    .ok (first :: more)

def writeMembersWithin (style : Style) (room : Room) :
    List (Value × Value) → Except WriteFault (List Text)
  | [] => .ok []
  | (k, v) :: rest => do
    let key ← name style k
    let value ← writeWithin style room v
    let more ← writeMembersWithin style room rest
    .ok ((key ++ style.nameMark ++ value) :: more)

end

/-! ## With all the room it takes -/

def write (style : Style) (v : Value) : Except WriteFault Text := writeWithin style none v

def writeItems (style : Style) (items : List Value) : Except WriteFault (List Text) :=
  writeItemsWithin style none items

def writeMembers (style : Style) (members : List (Value × Value)) :
    Except WriteFault (List Text) :=
  writeMembersWithin style none members

end QueryGateway.Json
