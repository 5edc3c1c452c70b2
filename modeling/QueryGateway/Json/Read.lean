import QueryGateway.Value.Basic

/-!
# Reading JSON

One reader, strict about the grammar: no comments, no trailing commas, no leading zeros, white space
only where and as JSON has it, no control characters inside a text, nothing after the value. Beyond
the standard it knows the three names `NaN`, `Infinity` and `-Infinity`. Of members with the same
name the last one counts, in the place of the first.

A `Dialect` holds what readers differ in: whether an escape may name one half of a surrogate pair
alone, how deep containers that hold something may be nested, and how long numbers may be. An empty
container is read at any depth.

Each step of the reader consumes a character or opens a container, so twice the length of the text is
enough fuel;
`Json.read?` supplies it.
-/

namespace QueryGateway.Json

/-- What readers of JSON differ in. -/
structure Dialect where
  loneSurrogates : Bool
  /-- How deep containers that hold something may be nested, if that is limited. -/
  maxDepth : Option Nat
  /-- How many digits an integer may have, if that is limited. -/
  maxDigits : Option Nat
  /-- How many digits any number may have in front of its point or exponent, if that is limited. -/
  maxLead : Option Nat

def Dialect.body : Dialect := ⟨false, some 200, none, some 4300⟩

def Dialect.setting : Dialect := ⟨true, none, some 4300, none⟩

def Dialect.unlimited : Dialect := ⟨true, none, none, none⟩

def within (limit : Option Nat) (n : Nat) : Bool := limit.all fun most => decide (n ≤ most)

/-! ## Blanks, names and texts -/

def isBlank (c : CodePoint) : Bool := c.val = 0x20 || c.val = 0x0A || c.val = 0x0D || c.val = 0x09

def skipBlanks (t : Text) : Text := t.dropWhile isBlank

def unit? : Text → Option (Nat × Text)
  | a :: b :: c :: d :: rest => do
    let a ← Text.hexValue? a
    let b ← Text.hexValue? b
    let c ← Text.hexValue? c
    let d ← Text.hexValue? d
    some (((a * 16 + b) * 16 + c) * 16 + d, rest)
  | _ => none

def lowUnit? : Text → Option (Nat × Text)
  | b :: u :: rest =>
    if b = '\\' ∧ u = 'u' then
      (unit? rest).filter fun (n, _) => 0xDC00 ≤ n && n ≤ 0xDFFF
    else none
  | _ => none

def numberedEscape? (d : Dialect) (t : Text) : Option (CodePoint × Text) := do
  let (n, rest) ← unit? t
  if 0xD800 ≤ n ∧ n ≤ 0xDBFF then
    match lowUnit? rest with
    | some (m, rest) => some (CodePoint.ofNat (0x10000 + (n - 0xD800) * 0x400 + (m - 0xDC00)), rest)
    | none => if d.loneSurrogates then some (CodePoint.ofNat n, rest) else none
  else if 0xDC00 ≤ n ∧ n ≤ 0xDFFF then
    if d.loneSurrogates then some (CodePoint.ofNat n, rest) else none
  else some (CodePoint.ofNat n, rest)

def letterEscape? (c : CodePoint) : Option CodePoint :=
  if c = '"' ∨ c = '\\' ∨ c = '/' then some c
  else if c = 'n' then some '\n'
  else if c = 'r' then some '\r'
  else if c = 't' then some '\t'
  else if c = 'b' then some (CodePoint.ofNat 0x08)
  else if c = 'f' then some (CodePoint.ofNat 0x0C)
  else none

def readText? (d : Dialect) : Nat → Text → Option (Text × Text)
  | 0, _ => none
  | _ + 1, [] => none
  | fuel + 1, c :: rest =>
    if c = '"' then some ([], rest)
    else if c = '\\' then
      match rest with
      | [] => none
      | e :: more =>
        if e = 'u' then do
          let (p, more) ← numberedEscape? d more
          let (t, rest) ← readText? d fuel more
          some (p :: t, rest)
        else do
          let p ← letterEscape? e
          let (t, rest) ← readText? d fuel more
          some (p :: t, rest)
    else if c.val < 0x20 then none
    else do
      let (t, rest) ← readText? d fuel rest
      some (c :: t, rest)

/-! ## Numbers -/

def digits (t : Text) : Text × Text :=
  (t.takeWhile CodePoint.isAsciiDigit, t.dropWhile CodePoint.isAsciiDigit)

/-- The digits of a whole number: none but a single one may begin with zero. -/
def whole? (t : Text) : Option (Text × Text) :=
  match digits t with
  | ([], _) => none
  | (z :: ds, rest) => if z = '0' ∧ ds ≠ [] then none else some (z :: ds, rest)

/-- The digits after a point, if there is one; a point without digits is a fault. -/
def fraction? : Text → Option (Option Text × Text)
  | [] => some (none, [])
  | c :: rest =>
    if c = '.' then
      match digits rest with
      | ([], _) => none
      | (ds, rest) => some (some ds, rest)
    else some (none, c :: rest)

def sign (negative : Bool) : Text := if negative then "-" else []

def signed (negative : Bool) (ds : Text) : Int :=
  if negative then -(Text.digitsValue ds : Int) else Text.digitsValue ds

def exponentSign : Text → Bool × Text
  | [] => (false, [])
  | s :: rest =>
    if s = '-' then (true, rest) else if s = '+' then (false, rest) else (false, s :: rest)

/-- The exponent after its letter, if there is one; a letter without digits is a fault. -/
def exponent? : Text → Option (Option Int × Text)
  | [] => some (none, [])
  | c :: rest =>
    if c = 'e' ∨ c = 'E' then
      let (negative, rest) := exponentSign rest
      match digits rest with
      | ([], _) => none
      | (ds, rest) => some (some (signed negative ds), rest)
    else some (none, c :: rest)

def scaled (negative : Bool) (ds after : Text) (exponent : Int) : Binary64 :=
  .ofDecimal negative (Text.digitsValue (ds ++ after)) (exponent - after.length)

/-- A number without its sign. One with a point or an exponent is a floating point number. -/
def number? (d : Dialect) (negative : Bool) (t : Text) : Option (Value × Text) := do
  let (ds, rest) ← whole? t
  if within d.maxLead ds.length then
    let (fraction, rest) ← fraction? rest
    let (exponent, rest) ← exponent? rest
    match fraction, exponent with
    | none, none =>
      if within d.maxDigits ds.length then some (.int (signed negative ds), rest) else none
    | _, _ =>
      some (.real (scaled negative ds (fraction.getD []) (exponent.getD 0)), rest)
  else none

def named? (t : Text) : Option (Value × Text) :=
  let word? (name : Text) (v : Value) : Option (Value × Text) := (Text.dropStart? name t).map (v, ·)
  word? "null" .null <|> word? "true" (.bool true) <|> word? "false" (.bool false) <|>
    word? "NaN" (.real (.nan 0)) <|> word? "Infinity" (.real (.infinite false)) <|>
    word? "-Infinity" (.real (.infinite true))

def scalar? (d : Dialect) (t : Text) : Option (Value × Text) :=
  named? t <|>
  match t with
  | [] => none
  | c :: rest => if c = '-' then number? d true rest else number? d false (c :: rest)

/-! ## Values -/

/-- Members with repeated names resolved: the last value, in the place of the first. -/
def resolve (members : Members) : Members := Members.update [] members

mutual

def readValue? (d : Dialect) : (fuel depth : Nat) → Text → Option (Value × Text)
  | 0, _, _ => none
  | _ + 1, _, [] => none
  | fuel + 1, depth, c :: rest =>
    if c = '"' then
      (readText? d (rest.length + 1) rest).map fun (t, rest) => (.text t, rest)
    else if c = '[' then
      match skipBlanks rest with
      | [] => none
      | e :: more =>
        if e = ']' then some (.list [], more)
        else
          match depth with
          | 0 => none
          | depth + 1 =>
            (readItems? d fuel depth (e :: more)).map fun (items, rest) => (.list items, rest)
    else if c = '\x7b' then
      match skipBlanks rest with
      | [] => none
      | e :: more =>
        if e = '\x7d' then some (.map [], more)
        else
          match depth with
          | 0 => none
          | depth + 1 =>
            (readMembers? d fuel depth (e :: more)).map fun (members, rest) =>
              (Value.object (resolve members), rest)
    else scalar? d (c :: rest)

/-- Items up to the closing bracket, and the text after it. There is at least one. -/
def readItems? (d : Dialect) : (fuel depth : Nat) → Text → Option (List Value × Text)
  | 0, _, _ => none
  | fuel + 1, depth, t => do
    let (v, rest) ← readValue? d fuel depth t
    match skipBlanks rest with
    | [] => none
    | c :: rest =>
      if c = ']' then some ([v], rest)
      else if c = ',' then do
        let (items, rest) ← readItems? d fuel depth (skipBlanks rest)
        some (v :: items, rest)
      else none

/-- Members up to the closing brace, and the text after it. There is at least one. -/
def readMembers? (d : Dialect) : (fuel depth : Nat) → Text → Option (Members × Text)
  | 0, _, _ => none
  | _ + 1, _, [] => none
  | fuel + 1, depth, q :: rest =>
    if q = '"' then do
      let (name, rest) ← readText? d (rest.length + 1) rest
      match skipBlanks rest with
      | [] => none
      | m :: rest =>
        if m = ':' then do
          let (v, rest) ← readValue? d fuel depth (skipBlanks rest)
          match skipBlanks rest with
          | [] => none
          | c :: rest =>
            if c = '\x7d' then some ([(name, v)], rest)
            else if c = ',' then do
              let (members, rest) ← readMembers? d fuel depth (skipBlanks rest)
              some ((name, v) :: members, rest)
            else none
        else none
    else none

end

def read? (d : Dialect) (t : Text) : Option Value := do
  let (v, rest) ← readValue? d (2 * t.length + 2) (d.maxDepth.getD t.length) (skipBlanks t)
  if skipBlanks rest = [] then some v else none

end QueryGateway.Json
