import QueryGateway.Number.Binary64
import QueryGateway.Text.Blank
import QueryGateway.Text.Case
import QueryGateway.Text.Digit

/-!
# Texts that are numbers

`real?` reads a quality value: blanks around it, a sign, then `inf`, `infinity` or `nan` in any case,
or digits of any script with at most one point and at most one exponent, where a single underscore
may stand between two digits. `integer?` reads a whole number from a form: white space around it, a
sign, digits with single underscores between them and, after a point, nothing but zeros.

Both refuse everything else, and a text refused here is a fault of its own kind where it is used.
-/

namespace QueryGateway.Number

def asciiDigit (c : CodePoint) : CodePoint :=
  match c.decimal? with
  | some d => CodePoint.ofNat (0x30 + d)
  | none => c

/-- The text without its underscores, each of which must stand between two digits; `last` is the
character in front. -/
def dropUnderscores? (last : CodePoint) : Text → Option Text
  | [] => some []
  | c :: rest =>
    if c = '_' then
      match rest with
      | d :: _ => if last.isAsciiDigit && d.isAsciiDigit then dropUnderscores? c rest else none
      | [] => none
    else (dropUnderscores? c rest).map (c :: ·)

/-- A sign in front of a text: whether it is a minus, and the text after it. -/
def splitSign : Text → Bool × Text
  | [] => (false, [])
  | c :: rest => if c = '-' then (true, rest) else if c = '+' then (false, rest) else (false, c :: rest)

/-- An exponent: a sign and at least one digit. -/
def exponent? (t : Text) : Option Int :=
  let (negative, ds) := splitSign t
  if ds ≠ [] ∧ ds.all CodePoint.isAsciiDigit then
    let n : Int := Text.digitsValue ds
    some (if negative then -n else n)
  else none

/-- Digits with a point and an exponent, without a sign. There is at least one digit in front of the
point or after it. -/
def magnitude? (negative : Bool) (t : Text) : Option Binary64 :=
  let whole := t.takeWhile CodePoint.isAsciiDigit
  let rest := t.dropWhile CodePoint.isAsciiDigit
  let (fraction, rest) : Text × Text :=
    match rest with
    | c :: more =>
      if c = '.' then (more.takeWhile CodePoint.isAsciiDigit, more.dropWhile CodePoint.isAsciiDigit)
      else ([], rest)
    | [] => ([], [])
  if whole = [] ∧ fraction = [] then none
  else
    let digits := Text.digitsValue (whole ++ fraction)
    let scale : Int := -(fraction.length : Int)
    match rest with
    | [] => some (.ofDecimal negative digits scale)
    | c :: more =>
      if c = 'e' ∨ c = 'E' then
        (exponent? more).map fun x => .ofDecimal negative digits (scale + x)
      else none

def real? (t : Text) : Option Binary64 := do
  let plain ← dropUnderscores? '_' ((t.trim).map asciiDigit)
  let (negative, body) := splitSign plain
  let name := Text.asciiLower body
  if name = "inf" ∨ name = "infinity" then some (.infinite negative)
  else if name = "nan" then some (.nan 0)
  else magnitude? negative body

inductive IntegerFault where
  | notAnInteger
  | tooLong
deriving DecidableEq, Repr

def trimSpace (t : Text) : Text :=
  (((t.dropWhile CodePoint.isSpace).reverse).dropWhile CodePoint.isSpace).reverse

def maxIntegerWidth : Nat := 4300

def integer? (t : Text) : Except IntegerFault Int :=
  let body := trimSpace t
  if maxIntegerWidth < body.length then .error .tooLong
  else
    let (negative, unsigned) := splitSign body
    let (whole, fraction) := Text.cut '.' unsigned
    let zeros : Bool := match fraction with
      | none => true
      | some f => !f.isEmpty && f.all fun c : CodePoint => c = '0'
    match dropUnderscores? '_' whole with
    | some ds =>
      if zeros ∧ ds ≠ [] ∧ ds.all CodePoint.isAsciiDigit then
        let n : Int := Text.digitsValue ds
        .ok (if negative then -n else n)
      else .error .notAnInteger
    | none => .error .notAnInteger

end QueryGateway.Number
