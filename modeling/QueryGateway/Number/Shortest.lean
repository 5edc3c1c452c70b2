import QueryGateway.Number.Binary64

/-!
# The shortest decimal that reads back

The digits of a finite number are the fewest that name no other number of the format: of all decimal
grids, from coarse to fine, the first one with a point among the reals that round to the number; of
two such points the nearer one. Only the two grid points around the number have to be looked at, for
if any point of a grid rounds to the number then one of these two does.
-/

namespace QueryGateway.Binary64

open Number (tenPow twoPow)

/-- The reals that round to `m · 2 ^ e`, in units of `2 ^ (e - 2)`: the lower and the upper end. The
ends belong to them iff `m` is even. The gap below a power of two is half as wide. -/
def roundingRange (m : Nat) (e : Int) : Nat × Nat :=
  (if m = twoPow 52 ∧ e > -1074 then 4 * m - 1 else 4 * m - 2, 4 * m + 2)

def between (closed : Bool) (low high n d : Nat) : Bool :=
  if closed then low * d ≤ n && n ≤ high * d else low * d < n && n < high * d

def decimalExponent (n d : Nat) : Int :=
  if d ≤ n then (width (n / d) : Int) - 1
  else
    let up := (d + n - 1) / n
    Int.negOfNat (width (up - 1))

def scale10 (n d : Nat) (k : Int) : Nat × Nat :=
  if 0 ≤ k then (n * tenPow k.toNat, d) else (n, d * tenPow (-k).toNat)

/-- The point of the grid of multiples of `10 ^ k` that stands for `n / d`, a number in units of
which `low` and `high` bound the reals that round to it. -/
def gridPoint? (closed : Bool) (low high value n d : Nat) (k : Int) : Option Nat :=
  -- `value · n / d` is the number itself; the grid point `q` is `q · 10 ^ k`
  let (a, b) := scale10 (value * n) d (-k)
  let q := a / b
  let fits (p : Nat) : Bool :=
    let (x, y) := scale10 (p * d) n k
    between closed low high x y
  let lower := q ≠ 0 && fits q
  let upper := fits (q + 1)
  if lower && upper then
    -- the nearer one, the even one of two equally near
    let twice := 2 * (a % b)
    if twice < b then some q
    else if b < twice then some (q + 1)
    else some (q + q % 2)
  else if lower then some q
  else if upper then some (q + 1)
  else none

def firstGridPoint (closed : Bool) (low high value n d : Nat) (k : Int) : Nat → Nat × Int
  | 0 => (0, 0)
  | grids + 1 =>
    match gridPoint? closed low high value n d k with
    | some q => (q, k)
    | none => firstGridPoint closed low high value n d (k - 1) grids

def dropZeros : Nat → Nat → Nat × Nat
  | 0, n => (n, 0)
  | fuel + 1, n =>
    if n ≠ 0 ∧ n % 10 = 0 then
      let (m, z) := dropZeros fuel (n / 10)
      (m, z + 1)
    else (n, 0)

def shortest (m : Nat) (e : Int) : Nat × Int :=
  let (low, high) := roundingRange m e
  -- the unit `2 ^ (e - 2)` as a ratio
  let (n, d) := if 0 ≤ e - 2 then (twoPow (e - 2).toNat, 1) else (1, twoPow (2 - e).toNat)
  let top := decimalExponent (4 * m * n) d
  let (q, k) := firstGridPoint (m % 2 = 0) low high (4 * m) n d (top + 1) 19
  let (digits, zeros) := dropZeros 20 q
  (digits, k + zeros)

end QueryGateway.Binary64
