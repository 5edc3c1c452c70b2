import QueryGateway.Number.Power
import QueryGateway.Text.Basic

/-!
# Double precision numbers as data

A floating point number is kept as what it stands for, a signed multiple of a power of two, an
infinity, or no number at all. Every number here comes from a decimal text, through `ofDecimal`,
which rounds to the nearest number of the format and ties to the even neighbour; nothing else
computes with them. Comparison with an integer is exact, since both sides are ratios.

What is NOT here: a printed form (`Number.Shortest`, `Number.Notation`) and the texts that are read
as numbers (`Number.Reading`).
-/

namespace QueryGateway

/-- A double precision number. In `finite negative m e` the magnitude is `m · 2 ^ e` with
`m < 2 ^ 53` and `-1074 ≤ e`, and `2 ^ 52 ≤ m` unless `e = -1074`. What is no number equals nothing,
but whoever holds it can tell it from others; `which` does so here, and what is read is the first.
-/
inductive Binary64 where
  | nan (which : Nat)
  | infinite (negative : Bool)
  | finite (negative : Bool) (m : Nat) (e : Int)
deriving DecidableEq, Repr

namespace Binary64

open Number (tenPow twoPow)

def zero (negative : Bool) : Binary64 := .finite negative 0 (-1074)

def isFinite : Binary64 → Bool
  | .finite .. => true
  | _ => false

def isNaN : Binary64 → Bool
  | .nan _ => true
  | _ => false

/-- The quotient of two numbers, rounded to the nearest integer and, half way between two, to the
even one. -/
def roundDiv (a b : Nat) : Nat :=
  let q := a / b
  let r := a % b
  if 2 * r < b then q
  else if b < 2 * r then q + 1
  else q + q % 2

/-- `a / b · 2 ^ e` over the quotient: numerator and denominator of `a / b / 2 ^ e`. -/
def shiftRatio (a b : Nat) (e : Int) : Nat × Nat :=
  if e ≤ 0 then (a * twoPow (-e).toNat, b) else (a, b * twoPow e.toNat)

def ofRatio (negative : Bool) (a b : Nat) : Binary64 :=
  -- `2 ^ (k - 1) < a / b < 2 ^ (k + 1)`
  let k : Int := (a.log2 : Int) - b.log2
  let below (e : Int) : Bool := let (n, d) := shiftRatio a b e; n < d
  let top := if below k then k - 1 else k
  let e := max (top - 52) (-1074)
  let (n, d) := shiftRatio a b e
  let m := roundDiv n d
  if m = twoPow 53 then
    if e + 1 > 971 then .infinite negative else .finite negative (twoPow 52) (e + 1)
  else if e > 971 then .infinite negative
  else .finite negative m e

def width (n : Nat) : Nat := (Text.ofNat n).length

/-- The number of the format nearest to `digits · 10 ^ scale`. A magnitude that is too large for any
number of the format is infinite, one below half of the smallest is zero. -/
def ofDecimal (negative : Bool) (digits : Nat) (scale : Int) : Binary64 :=
  if digits = 0 then .zero negative
  else if (width digits : Int) + scale > 310 then .infinite negative
  else if (width digits : Int) + scale < -330 then .zero negative
  else if scale < 0 then ofRatio negative digits (tenPow (-scale).toNat)
  else ofRatio negative (digits * tenPow scale.toNat) 1

def toInt? : Binary64 → Option Int
  | .finite negative m e =>
    let magnitude : Option Nat :=
      if 0 ≤ e then some (m * twoPow e.toNat)
      else if m % twoPow (-e).toNat = 0 then some (m / twoPow (-e).toNat)
      else none
    magnitude.map fun n => if negative then -(n : Int) else n
  | _ => none

def isPositive : Binary64 → Bool
  | .nan _ => false
  | .infinite negative => !negative
  | .finite negative m _ => !negative && m ≠ 0

def isZero : Binary64 → Bool
  | .finite _ 0 _ => true
  | _ => false

/-- Equality of numbers: no number equals `nan`, and the two zeros are equal. -/
def same (x y : Binary64) : Bool :=
  if x.isNaN || y.isNaN then false
  else if x.isZero && y.isZero then true
  else x = y

end Binary64

end QueryGateway
