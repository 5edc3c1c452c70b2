import QueryGateway.Failure.Report
import QueryGateway.Number.Notation
import QueryGateway.Text.Case

/-!
# Message templates

A message may be a template with arguments: each mark `%` takes the next argument, or the one named
in parentheses, and writes it in the way that the letter of the mark says, filled up to a width. A
template without arguments is written as it is, marks and all.

All arguments must be used, unless they are a table of names, and every mark must find one.
-/

namespace QueryGateway.Log.Template

/-- The options of a mark. -/
structure Mark where
  left : Bool
  zeros : Bool
  plus : Bool
  blank : Bool
  alternate : Bool
  width : Nat
  precision : Option Nat
deriving Repr

def fault (message : Text) : Failure := .plain "TypeError" message

/-! ## Numbers with a fixed precision -/

/-- A quotient with `places` digits after the point; the alternate form keeps a point without any. -/
def fixed (alternate : Bool) (n d places : Nat) : Text :=
  let digits := Text.ofNat (Binary64.roundDiv (n * Number.tenPow places) d)
  let digits := List.replicate (places + 1 - digits.length) (CodePoint.ofChar '0') ++ digits
  let whole : Text := digits.take (digits.length - places)
  let fraction : Text := digits.drop (digits.length - places)
  if places = 0 ∧ !alternate then whole else whole ++ "." ++ fraction

def ratio (m : Nat) (e : Int) : Nat × Nat :=
  if 0 ≤ e then (m * Number.twoPow e.toNat, 1) else (m, Number.twoPow (-e).toNat)

def significant (n d places : Nat) : Text × Int :=
  if n = 0 then (List.replicate (places + 1) (CodePoint.ofChar '0'), 0)
  else
    let x := Binary64.decimalExponent n d
    let digitsAt (x : Int) : Nat :=
      let (a, b) := Binary64.scale10 n d ((places : Int) - x)
      Binary64.roundDiv a b
    let q := digitsAt x
    if q < Number.tenPow (places + 1) then (Text.ofNat q, x) else (Text.ofNat (digitsAt (x + 1)), x + 1)

/-- Digits as a number with an exponent; the alternate form has a point behind a single digit. -/
def withExponent (alternate : Bool) (digits : Text) (x : Int) : Text :=
  if alternate ∧ digits.length = 1 then
    digits ++ "." ++ (Number.scientific Number.plain digits x).drop 1
  else Number.scientific Number.plain digits x

def stripZeros (t : Text) : Text := (t.reverse.dropWhile fun c : CodePoint => c = '0').reverse

def stripFraction (t : Text) : Text :=
  if t.contains (CodePoint.ofChar '.') then
    (((stripZeros t).reverse).dropWhile fun c : CodePoint => c = '.').reverse
  else t

/-- A number in the shorter of the two forms, with so many significant digits. The alternate form
keeps all of them. -/
def general (alternate : Bool) (n d precision : Nat) : Text :=
  let places := (if precision = 0 then 1 else precision) - 1
  let (digits, x) := significant n d places
  if x < -4 ∨ (places : Int) < x then
    withExponent alternate (if alternate then digits else stripZeros digits) x
  else
    let t := fixed alternate n d ((places : Int) - x).toNat
    if alternate then t else stripFraction t

def realBody (alternate : Bool) (letter : CodePoint) (precision : Option Nat) :
    Binary64 → Bool × Text
  | .nan _ => (false, "nan")
  | .infinite negative => (negative, "inf")
  | .finite negative m e =>
    let (n, d) := ratio m e
    let p := precision.getD 6
    (negative,
      if letter = 'f' then fixed alternate n d p
      else if letter = 'e' then
        let (digits, x) := significant n d p
        withExponent alternate digits x
      else general alternate n d p)

/-! ## One argument -/

def inBase (base n : Nat) : Text := Text.ofString (String.ofList (Nat.toDigits base n))

def integerOf? : Value → Option Int
  | .int n => some n
  | .bool b => some (if b then 1 else 0)
  | .real x =>
    match x with
    | .finite negative m e =>
      let (n, d) := ratio m e
      let q : Int := n / d
      some (if negative then -q else q)
    | _ => none
  | _ => none

def realOf (v : Value) : Except Failure Binary64 :=
  match v with
  | .int n =>
    match Binary64.ofDecimal (n < 0) n.natAbs 0 with
    | .infinite _ => .error (.plain "OverflowError" "int too large to convert to float")
    | x => .ok x
  | .bool b => .ok (.ofDecimal false (if b then 1 else 0) 0)
  | .real x => .ok x
  | _ => .error (fault ("must be real number, not " ++ v.kindName))

/-- A number filled up to the width of its mark: the sign in front, zeros after it. -/
def numeric (mark : Mark) (negative : Bool) (start body : Text) : Text :=
  let sign : Text := if negative then "-" else if mark.plus then "+" else if mark.blank then " " else ""
  let used := sign.length + start.length + body.length
  let gap := mark.width - used
  if mark.left then sign ++ start ++ body ++ List.replicate gap (CodePoint.ofChar ' ')
  else if mark.zeros then sign ++ start ++ List.replicate gap (CodePoint.ofChar '0') ++ body
  else List.replicate gap (CodePoint.ofChar ' ') ++ sign ++ start ++ body

def filled (mark : Mark) (t : Text) : Text :=
  let gap := List.replicate (mark.width - t.length) (CodePoint.ofChar ' ')
  if mark.left then t ++ gap else gap ++ t

def textual (mark : Mark) (t : Text) : Text :=
  filled mark <|
    match mark.precision with
    | some p => t.take p
    | none => t

def lengthened (mark : Mark) (digits : Text) : Text :=
  List.replicate (mark.precision.getD 0 - digits.length) (CodePoint.ofChar '0') ++ digits

def asciiForm (v : Value) : Text :=
  v.inner.flatMap fun c => if c.isAscii then [c] else Text.numberedEscape c

/-- The fault of a letter that means nothing. One that cannot be shown is shown as a question mark. -/
def unknownLetter (letter : CodePoint) (index : Nat) : Failure :=
  let shown : CodePoint := if 31 ≤ letter.val ∧ letter.val < 127 then letter else CodePoint.ofChar '?'
  .plain "ValueError"
    (("unsupported format character '" : Text) ++ [shown] ++ "' (0x" ++ inBase 16 letter.val ++
      ") at index " ++ Text.ofNat index)

def argument (mark : Mark) (letter : CodePoint) (index : Nat) (v : Value) : Except Failure Text :=
  if letter = 's' then .ok (textual mark v.shown)
  else if letter = 'r' then .ok (textual mark v.inner)
  else if letter = 'a' then .ok (textual mark (asciiForm v))
  else if letter = 'd' ∨ letter = 'i' ∨ letter = 'u' then
    match integerOf? v with
    | some n => .ok (numeric mark (n < 0) "" (lengthened mark (Text.ofNat n.natAbs)))
    | none =>
      match v with
      | .real (.nan _) => .error (.plain "ValueError" "cannot convert float NaN to integer")
      | .real _ => .error (.plain "OverflowError" "cannot convert float infinity to integer")
      | _ =>
        .error (fault (("%" : Text) ++ [letter] ++ " format: a real number is required, not " ++
          v.kindName))
  else if letter = 'x' ∨ letter = 'X' ∨ letter = 'o' then
    match v with
    | .int _ | .bool _ =>
      let n := (integerOf? v).getD 0
      let digits := inBase (if letter = 'o' then 8 else 16) n.natAbs
      let digits := if letter = 'X' then Text.upper digits else digits
      .ok (numeric mark (n < 0) (if mark.alternate then ("0" : Text) ++ [letter] else [])
        (lengthened mark digits))
    | _ =>
      .error (fault (("%" : Text) ++ [letter] ++ " format: an integer is required, not " ++
        v.kindName))
  else if letter = 'c' then
    match v with
    | .text [c] => .ok (filled mark [c])
    | .int _ | .bool _ =>
      let n := (integerOf? v).getD 0
      if 0 ≤ n ∧ n < 0x110000 then .ok (filled mark [CodePoint.ofNat n.toNat])
      else .error (.plain "OverflowError" "%c arg not in range(0x110000)")
    | _ => .error (fault "%c requires int or char")
  else
    let small := letter.asciiLower
    if small = 'f' ∨ small = 'e' ∨ small = 'g' then do
      let (negative, body) := realBody mark.alternate small mark.precision (← realOf v)
      .ok (numeric mark negative "" (if letter = small then body else Text.upper body))
    else .error (unknownLetter letter index)

/-! ## The template -/

def options (mark : Mark) : Text → Mark × Text
  | [] => (mark, [])
  | c :: rest =>
    if c = '-' then options { mark with left := true } rest
    else if c = '0' then options { mark with zeros := true } rest
    else if c = '+' then options { mark with plus := true } rest
    else if c = ' ' then options { mark with blank := true } rest
    else if c = '#' then options { mark with alternate := true } rest
    else (mark, c :: rest)

/-- The name in parentheses, which may hold others, and the text behind it. The opening one has been
read, and `depth` more inside it. -/
def nameOf? (depth : Nat) : Text → Option (Text × Text)
  | [] => none
  | c :: rest =>
    if c = ')' then
      match depth with
      | 0 => some ([], rest)
      | depth + 1 => (nameOf? depth rest).map fun (name, rest) => (c :: name, rest)
    else
      (nameOf? (if c = '(' then depth + 1 else depth) rest).map fun (name, rest) => (c :: name, rest)

/-- The arguments that are left. A table of names may be left over. -/
structure Arguments where
  rest : List Value
  table : Option Members

def Arguments.next (args : Arguments) : Except Failure (Value × Arguments) :=
  match args.rest with
  | [] => .error (fault "not enough arguments for format string")
  | v :: more => .ok (v, { args with rest := more })

def Arguments.nextCount (args : Arguments) : Except Failure (Int × Arguments) := do
  let (v, args) ← args.next
  match v with
  | .int n => .ok (n, args)
  | .bool b => .ok (if b then 1 else 0, args)
  | _ => .error (fault "* wants int")

/-- A count in a template: written out, or taken from the arguments. -/
inductive Count where
  | none
  | digits (n : Nat)
  | argument (n : Int)

def countOf (args : Arguments) (t : Text) : Except Failure (Count × Arguments × Text) :=
  match t with
  | [] => .ok (.none, args, [])
  | c :: rest =>
    if c = '*' then do
      let (n, args) ← args.nextCount
      .ok (.argument n, args, rest)
    else if c.isAsciiDigit then
      .ok (.digits (Text.digitsValue (t.takeWhile CodePoint.isAsciiDigit)), args,
        t.dropWhile CodePoint.isAsciiDigit)
    else .ok (.none, args, t)

def tooLarge (word : Text) : Failure :=
  .plain "OverflowError" (("Python int too large to convert to C " : Text) ++ word)

/-- A mark with a width. A negative one means that the blanks stand behind. -/
def Mark.withWidth (mark : Mark) : Count → Except Failure Mark
  | .none => .ok mark
  | .digits n =>
    if Number.fitsWord 64 n then .ok { mark with width := n }
    else .error (.plain "ValueError" "width too big")
  | .argument n =>
    if Number.fitsWord 64 n then
      .ok { mark with width := n.natAbs, left := mark.left || n < 0 }
    else .error (tooLarge "ssize_t")

/-- A mark with a precision. A negative one counts as zero. -/
def Mark.withPrecision (mark : Mark) : Count → Except Failure Mark
  | .none => .ok { mark with precision := some 0 }
  | .digits n =>
    if Number.fitsWord 32 n then .ok { mark with precision := some n }
    else .error (.plain "ValueError" "precision too big")
  | .argument n =>
    if Number.fitsWord 32 n then .ok { mark with precision := some n.toNat }
    else .error (tooLarge "int")

def Mark.bare : Mark := ⟨false, false, false, false, false, 0, none⟩

/-- The arguments for a mark, and the mark without the name that it may begin with. A name leaves one
argument, the one that it names. -/
def nameArgument (args : Arguments) (t : Text) : Except Failure (Arguments × Text) :=
  match t with
  | [] => .ok (args, [])
  | c :: rest =>
    if c ≠ '(' then .ok (args, t)
    else
      match args.table, nameOf? 0 rest with
      | none, _ => .error (fault "format requires a mapping")
      | some _, none => .error (.plain "ValueError" "incomplete format key")
      | some table, some (name, rest) =>
        match Members.get? table name with
        | some v => .ok ({ args with rest := [v] }, rest)
        | none => .error (.of (.foreign .missingKey [.text name] {}))

def precisionOf (mark : Mark) (args : Arguments) (t : Text) :
    Except Failure (Mark × Arguments × Text) :=
  match t with
  | [] => .ok (mark, args, [])
  | c :: rest =>
    if c = '.' then do
      let (count, args, rest) ← countOf args rest
      .ok (← mark.withPrecision count, args, rest)
    else .ok (mark, args, t)

/-- The text without a letter that tells a size; it means nothing here. -/
def skipSize : Text → Text
  | [] => []
  | c :: rest => if c = 'h' ∨ c = 'l' ∨ c = 'L' then rest else c :: rest

def markOf (args : Arguments) (t : Text) : Except Failure (Mark × Arguments × Text) := do
  let (mark, rest) := options .bare t
  let (width, args, rest) ← countOf args rest
  let (mark, args, rest) ← precisionOf (← mark.withWidth width) args rest
  .ok (mark, args, skipSize rest)

/-- The text of a mark behind its sign, what is left of the arguments, and the text behind the mark.
`size` is the length of the whole template. -/
def expand (size : Nat) (args : Arguments) (t : Text) : Except Failure (Text × Arguments × Text) := do
  let (args, rest) ← nameArgument args t
  let (mark, args, rest) ← markOf args rest
  match rest with
  | [] => .error (.plain "ValueError" "incomplete format")
  | letter :: rest =>
    let (v, args) ← args.next
    .ok (← argument mark letter (size - rest.length - 1) v, args, rest)

/-- The template with its arguments put in. `size` is the length of the whole template, and the fuel
is more than that of what is left of it. -/
def fill (size : Nat) : Nat → Arguments → Text → Except Failure Text
  | 0, _, _ => .ok []
  | _ + 1, args, [] =>
    if args.rest ≠ [] ∧ args.table.isNone then
      .error (fault "not all arguments converted during string formatting")
    else .ok []
  | fuel + 1, args, c :: rest =>
    if c ≠ '%' then (fill size fuel args rest).map (c :: ·)
    else if rest.head? = some c then (fill size fuel args (rest.drop 1)).map (c :: ·)
    else do
      let (t, args, rest) ← expand size args rest
      (fill size fuel args rest).map (t ++ ·)

/-- The message of a template. A single argument that is a table gives names. -/
def render (template : Text) (args : List Value) : Except Failure Text :=
  match args with
  | [] => .ok template
  | [.map (m :: ms)] =>
    let members := (m :: ms).filterMap fun
      | (.text k, v) => some (k, v)
      | _ => none
    fill template.length (template.length + 1) ⟨[.map (m :: ms)], some members⟩ template
  | args => fill template.length (template.length + 1) ⟨args, none⟩ template

end QueryGateway.Log.Template
