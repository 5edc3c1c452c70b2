/-!
# Powers of the two bases

Numbers are held to base two and written to base ten; the words of a machine have sizes that are
powers of two.
-/

namespace QueryGateway.Number

def twoPow (k : Nat) : Nat := Nat.pow 2 k

def tenPow (k : Nat) : Nat := Nat.pow 10 k

theorem twoPow_pos (k : Nat) : 0 < twoPow k := Nat.pow_pos (by decide)

theorem tenPow_pos (k : Nat) : 0 < tenPow k := Nat.pow_pos (by decide)

def fitsWord (bits : Nat) (n : Int) : Bool :=
  -(twoPow (bits - 1) : Int) ≤ n && n < (twoPow (bits - 1) : Int)

end QueryGateway.Number
