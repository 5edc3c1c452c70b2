import QueryGateway.Number.Shortest

/-!
# Written numbers

A `Layout` holds the decisions of a format about a floating point number: from which decimal
exponents on the mark of an exponent is used, how the exponent is written, and the names of the
values that are no finite number. The digits are always the shortest ones.
-/

namespace QueryGateway.Number

open Binary64

/-- How a format writes floating point numbers. A number with decimal exponent `x` (of its first
digit) is written without an exponent mark iff `positionalFrom ≤ x < exponentFrom`. -/
structure Layout where
  positionalFrom : Int
  exponentFrom : Int
  exponentWidth : Nat
  nan : Text
  infinity : Text

/-- Digits with a point after the first `before` of them; a zero stands where no digit does. -/
def positional (digits : Text) (before : Int) : Text :=
  if before ≤ 0 then
    "0." ++ List.replicate (-before).toNat (CodePoint.ofChar '0') ++ digits
  else
    let whole := digits.take before.toNat
    let zeros := List.replicate (before.toNat - whole.length) (CodePoint.ofChar '0')
    let fraction := digits.drop before.toNat
    whole ++ zeros ++ "." ++ (if fraction.isEmpty then Text.ofString "0" else fraction)

def scientific (layout : Layout) (digits : Text) (exponent : Int) : Text :=
  let first : Text := digits.take 1
  let fraction : Text := digits.drop 1
  first ++ (if fraction.isEmpty then [] else ("." : Text) ++ fraction) ++ "e" ++
    (if exponent < 0 then "-" else "+") ++ Text.padded layout.exponentWidth exponent.natAbs

def Layout.write (layout : Layout) : Binary64 → Text
  | .nan _ => layout.nan
  | .infinite negative => (if negative then "-" else "") ++ layout.infinity
  | .finite negative m e =>
    (if negative then "-" else "") ++
      if m = 0 then Text.ofString "0.0"
      else
        let (n, scale) := shortest m e
        let digits := Text.ofNat n
        let exponent := (digits.length : Int) - 1 + scale
        if layout.positionalFrom ≤ exponent ∧ exponent < layout.exponentFrom then
          positional digits (exponent + 1)
        else scientific layout digits exponent

/-- The layout of values shown to people and of documents: exponents below -4 and from 16 on are
written with at least two digits. -/
def plain : Layout := ⟨-4, 16, 2, "nan", "inf"⟩

/-- The layout of query envelopes: exponents below -5 and from 16 on are written as they are. -/
def envelope : Layout := ⟨-5, 16, 1, "null", "null"⟩

end QueryGateway.Number
