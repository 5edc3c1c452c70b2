import Mathlib.Algebra.Order.Field.Power
import Mathlib.Data.Rat.Cast.Order
import Mathlib.Tactic.Ring
import Mathlib.Tactic.Linarith
import Mathlib.Tactic.NormNum
import Mathlib.Tactic.SplitIfs
import QueryGateway.Number.Binary64

/-!
# What a double precision number stands for

A finite number is a rational number, `toRat`. The numbers of the format are those whose parts keep to
the bounds that `Binary64` names, `Proper`; whatever is read from a decimal text is one of them or
infinite (`ofDecimal_proper`). On them nothing is lost: a number equals an integer exactly if its
rational number does (`toInt?_eq_some`), and two numbers other than zero that are the same rational
number have the same parts (`toRat_injective`); zero is written with either sign.

What is NOT proved here: that the number read is the nearest one.
-/

namespace QueryGateway.Binary64

open Number (twoPow twoPow_pos)

/-- The number is finite and of the format: the magnitude has at most 53 bits, and fewer only where
the exponent is the least one. -/
def Proper : Binary64 → Prop
  | .finite _ m e => m < 2 ^ 53 ∧ -1074 ≤ e ∧ e ≤ 971 ∧ (2 ^ 52 ≤ m ∨ e = -1074)
  | _ => False

/-- The rational number that a finite number is. -/
def toRat : Binary64 → ℚ
  | .finite true m e => -(m * 2 ^ e)
  | .finite false m e => m * 2 ^ e
  | _ => 0

theorem twoPow_eq (k : Nat) : twoPow k = 2 ^ k := rfl

theorem two_zpow_pos (e : Int) : (0 : ℚ) < 2 ^ e := zpow_pos (by norm_num) e

/-- A quotient is an integer where nothing remains. -/
theorem exact_div_eq_some {m d n : Nat} (pos : 0 < d) :
    (if m % d = 0 then some (m / d) else none) = some n ↔ m = n * d := by
  split
  case isTrue whole =>
      rw [Option.some.injEq, Nat.div_eq_iff_eq_mul_left pos (Nat.dvd_of_mod_eq_zero whole)]
  case isFalse broken =>
      refine iff_of_false nofun fun eq => broken ?_
      rw [eq, Nat.mul_mod_left]

/-- The magnitude that `toInt?` looks for is the one that the number has, if that is an integer. -/
theorem magnitude_eq_some {m n : Nat} {e : Int} :
    (if 0 ≤ e then some (m * twoPow e.toNat)
      else if m % twoPow (-e).toNat = 0 then some (m / twoPow (-e).toNat) else none) = some n ↔
    (m : ℚ) * 2 ^ e = n := by
  split
  case isTrue h =>
      obtain ⟨k, rfl⟩ := Int.eq_ofNat_of_zero_le h
      rw [Option.some.injEq, Int.toNat_natCast, zpow_natCast, twoPow_eq]
      exact_mod_cast Iff.rfl
  case isFalse h =>
      obtain ⟨k, hk⟩ := Int.eq_ofNat_of_zero_le (show 0 ≤ -e by omega)
      obtain rfl : e = -k := by omega
      rw [exact_div_eq_some (twoPow_pos _), neg_neg, Int.toNat_natCast, twoPow_eq, zpow_neg,
        zpow_natCast, ← div_eq_mul_inv, div_eq_iff (by positivity)]
      exact_mod_cast Iff.rfl

/-- The integer that a number equals has the magnitude and the sign of the number. -/
theorem toInt?_finite {negative : Bool} {m : Nat} {e n : Int} :
    (finite negative m e).toInt? = some n ↔
      ∃ a : Nat, (m : ℚ) * 2 ^ e = a ∧ (if negative then -(a : Int) else a) = n := by
  simp only [toInt?, Option.map_eq_some_iff, Option.bind_eq_bind, Option.bind_eq_some_iff,
    magnitude_eq_some, Option.pure_def, Option.some.injEq]
  constructor
  · rintro ⟨_, ⟨a, ha, rfl⟩, rfl⟩
    exact ⟨a, ha, rfl⟩
  · rintro ⟨a, ha, rfl⟩
    exact ⟨a, ⟨a, ha, rfl⟩, rfl⟩

/-- A finite number is compared with integers as the rational number that it is. -/
theorem toInt?_eq_some {x : Binary64} (finite : x.isFinite = true) {n : Int} :
    x.toInt? = some n ↔ x.toRat = n := by
  match x, finite with
  | .finite negative m e, _ =>
  rw [toInt?_finite]
  have positive : (0 : ℚ) ≤ m * 2 ^ e := mul_nonneg m.cast_nonneg (two_zpow_pos e).le
  cases negative with
  | false =>
      constructor
      · rintro ⟨a, ha, rfl⟩
        exact ha
      · intro h
        have h : (m : ℚ) * 2 ^ e = (n : ℚ) := h
        obtain ⟨a, rfl⟩ := Int.eq_ofNat_of_zero_le (Int.cast_nonneg_iff.mp (h ▸ positive))
        exact ⟨a, h, rfl⟩
  | true =>
      constructor
      · rintro ⟨a, ha, rfl⟩
        simp [toRat, ha]
      · intro h
        have h : (m : ℚ) * 2 ^ e = ((-n : Int) : ℚ) := by simp [← h, toRat]
        obtain ⟨a, ha⟩ := Int.eq_ofNat_of_zero_le (Int.cast_nonneg_iff.mp (h ▸ positive))
        exact ⟨a, by simpa [ha] using h, by simp [← ha]⟩

theorem Proper.isFinite {x : Binary64} (proper : x.Proper) : x.isFinite = true :=
  match x, proper with
  | .finite .., _ => rfl

theorem toRat_ne_int {x : Binary64} (proper : x.Proper) (broken : x.toInt? = none) (n : Int) :
    x.toRat ≠ n := fun whole => by
  rw [(toInt?_eq_some proper.isFinite).mpr whole] at broken
  cases broken

/-- Two magnitudes of the format that are the same number are written in the same way: one with the
greater exponent would have a bit too many with the other's. -/
theorem exponent_le {m n : Nat} {e f : Int} (wide : m < 2 ^ 53) (least : -1074 ≤ e)
    (narrow : 2 ^ 52 ≤ n ∨ f = -1074) (same : (m : ℚ) * 2 ^ e = n * 2 ^ f) : f ≤ e := by
  by_contra lower
  obtain ⟨k, hk⟩ := Int.eq_ofNat_of_zero_le (show 0 ≤ f - e - 1 by omega)
  obtain rfl : f = (k + 1 : Nat) + e := by push_cast; omega
  rw [zpow_add₀ (by norm_num), ← mul_assoc, mul_right_cancel_iff_of_pos (two_zpow_pos e),
    zpow_natCast] at same
  have scaled : m = n * 2 ^ (k + 1) := by exact_mod_cast same
  have large : 2 ^ 52 ≤ n := narrow.resolve_right (by omega)
  have : 2 ^ 52 * 2 ≤ m := calc
    2 ^ 52 * 2 ≤ n * 2 ^ (k + 1) :=
      Nat.mul_le_mul large (Nat.le_self_pow (Nat.succ_ne_zero k) 2)
    _ = m := scaled.symm
  omega

/-- A magnitude of the format is written in one way. -/
theorem magnitude_injective {m n : Nat} {e f : Int} (hm : (finite false m e).Proper)
    (hn : (finite false n f).Proper) (same : (m : ℚ) * 2 ^ e = n * 2 ^ f) : m = n ∧ e = f := by
  obtain ⟨wideM, leastE, -, narrowM⟩ := hm
  obtain ⟨wideN, leastF, -, narrowN⟩ := hn
  obtain rfl : e = f :=
    (exponent_le wideN leastF narrowM same.symm).antisymm (exponent_le wideM leastE narrowN same)
  exact ⟨by exact_mod_cast mul_right_cancel₀ (two_zpow_pos e).ne' same, rfl⟩

/-- A number of the format other than zero is known by the rational number that it is. -/
theorem toRat_injective {x y : Binary64} (hx : x.Proper) (hy : y.Proper) (nonzero : x.toRat ≠ 0)
    (same : x.toRat = y.toRat) : x = y := by
  match x, y, hx, hy with
  | .finite negative m e, .finite negative' n f, hx, hy =>
  have positive : (0 : ℚ) ≤ m * 2 ^ e := mul_nonneg m.cast_nonneg (two_zpow_pos e).le
  have positive' : (0 : ℚ) ≤ n * 2 ^ f := mul_nonneg n.cast_nonneg (two_zpow_pos f).le
  cases negative <;> cases negative' <;> simp only [toRat] at same nonzero
  case false.true | true.false => exact absurd (by linarith) nonzero
  case false.false =>
    obtain ⟨rfl, rfl⟩ := magnitude_injective hx hy same
    rfl
  case true.true =>
    obtain ⟨rfl, rfl⟩ := magnitude_injective hx hy (neg_inj.mp same)
    rfl

/-! ## The nearest number to a quotient -/

section Nearest

variable {a b : Nat} {e : Int}

theorem zero_proper (negative : Bool) : (zero negative).Proper :=
  ⟨by decide, by decide, by decide, .inr rfl⟩

theorem shiftRatio_pos (hb : 0 < b) : 0 < (shiftRatio a b e).2 := by
  rw [shiftRatio]
  split
  · exact hb
  · exact Nat.mul_pos hb (twoPow_pos _)

/-- The shifted quotient is the quotient over the power. -/
theorem shiftRatio_div (a b : Nat) (e : Int) :
    ((shiftRatio a b e).1 : ℚ) / (shiftRatio a b e).2 = a / b / 2 ^ e := by
  rw [shiftRatio]
  split
  case isTrue h =>
      obtain ⟨k, hk⟩ := Int.eq_ofNat_of_zero_le (show 0 ≤ -e by omega)
      obtain rfl : e = -k := by omega
      rw [neg_neg, Int.toNat_natCast, twoPow_eq, zpow_neg, zpow_natCast, div_inv_eq_mul]
      push_cast
      ring
  case isFalse h =>
      obtain ⟨k, rfl⟩ := Int.eq_ofNat_of_zero_le (show 0 ≤ e by omega)
      rw [Int.toNat_natCast, twoPow_eq, zpow_natCast]
      push_cast
      rw [div_mul_eq_div_div]

/-- The shifted quotient lies below a bound as the quotient lies below its multiple. -/
theorem shiftRatio_lt (hb : 0 < b) {c : Nat} :
    (shiftRatio a b e).1 < c * (shiftRatio a b e).2 ↔ (a : ℚ) / b < c * 2 ^ e := by
  have pos : (0 : ℚ) < (shiftRatio a b e).2 := by exact_mod_cast shiftRatio_pos hb
  rw [← div_lt_iff₀ (two_zpow_pos e), ← shiftRatio_div, div_lt_iff₀ pos]
  exact_mod_cast Iff.rfl

theorem roundDiv_bounds (m n : Nat) : m / n ≤ roundDiv m n ∧ roundDiv m n ≤ m / n + 1 := by
  simp only [roundDiv]
  split
  · omega
  · split <;> omega

/-- The greatest power of two that is no greater than the quotient. -/
def leading (a b : Nat) : Int :=
  let k : Int := (a.log2 : Int) - b.log2
  let below (e : Int) : Bool := let (n, d) := shiftRatio a b e; n < d
  if below k then k - 1 else k

theorem leading_bounds (ha : 0 < a) (hb : 0 < b) :
    (2 : ℚ) ^ leading a b ≤ a / b ∧ (a : ℚ) / b < 2 ^ (leading a b + 1) := by
  have hb' : (0 : ℚ) < b := by exact_mod_cast hb
  have aLow : (2 : ℚ) ^ (a.log2 : Int) ≤ a := by exact_mod_cast Nat.log2_self_le ha.ne'
  have aHigh : (a : ℚ) < 2 ^ ((a.log2 : Int) + 1) := by exact_mod_cast Nat.lt_log2_self (n := a)
  have bLow : (2 : ℚ) ^ (b.log2 : Int) ≤ b := by exact_mod_cast Nat.log2_self_le hb.ne'
  have bHigh : (b : ℚ) < 2 ^ ((b.log2 : Int) + 1) := by exact_mod_cast Nat.lt_log2_self (n := b)
  have two : (2 : ℚ) ≠ 0 := by norm_num
  have below : (shiftRatio a b ((a.log2 : Int) - b.log2)).1 <
      (shiftRatio a b ((a.log2 : Int) - b.log2)).2 ↔ (a : ℚ) / b < 2 ^ ((a.log2 : Int) - b.log2) := by
    simpa using shiftRatio_lt (a := a) (e := (a.log2 : Int) - b.log2) hb (c := 1)
  simp only [leading, decide_eq_true_eq, below]
  split
  case isTrue less =>
      refine ⟨?_, by rwa [Int.sub_add_cancel]⟩
      rw [show (a.log2 : Int) - b.log2 - 1 = a.log2 - (b.log2 + 1) by omega, zpow_sub₀ two,
        le_div_iff₀ hb', div_mul_eq_mul_div, div_le_iff₀ (two_zpow_pos _)]
      exact mul_le_mul aLow bHigh.le hb'.le (two_zpow_pos _ |>.le.trans aLow)
  case isFalse more =>
      refine ⟨not_lt.mp more, ?_⟩
      rw [show (a.log2 : Int) - b.log2 + 1 = (a.log2 + 1) - b.log2 by omega, zpow_sub₀ two,
        div_lt_iff₀ hb', div_mul_eq_mul_div, lt_div_iff₀ (two_zpow_pos _)]
      exact mul_lt_mul aHigh bLow (two_zpow_pos _) (two_zpow_pos _).le

/-- The exponent that leaves 53 bits, or the least one. -/
def fitting (a b : Nat) : Int := max (leading a b - 52) (-1074)

theorem fitting_bounds (ha : 0 < a) (hb : 0 < b) :
    (shiftRatio a b (fitting a b)).1 < 2 ^ 53 * (shiftRatio a b (fitting a b)).2 ∧
    (2 ^ 52 * (shiftRatio a b (fitting a b)).2 ≤ (shiftRatio a b (fitting a b)).1 ∨
      fitting a b = -1074) := by
  obtain ⟨low, high⟩ := leading_bounds ha hb
  have scaled (k : Nat) : (((2 ^ k : Nat) : ℚ)) * 2 ^ fitting a b = 2 ^ (k + fitting a b) := by
    rw [zpow_add₀ (by norm_num), zpow_natCast, Nat.cast_pow, Nat.cast_ofNat]
  constructor
  · rw [shiftRatio_lt hb, scaled]
    exact high.trans_le (zpow_le_zpow_right₀ (by norm_num) (by simp only [fitting]; omega))
  · by_cases least : fitting a b = -1074
    · exact .inr least
    · refine .inl ?_
      rw [← not_lt, shiftRatio_lt hb, not_lt, scaled,
        show ((52 : Nat) : Int) + fitting a b = leading a b by simp only [fitting] at least ⊢; omega]
      exact low

theorem ofRatio_eq (negative : Bool) (a b : Nat) : ofRatio negative a b =
    let m := roundDiv (shiftRatio a b (fitting a b)).1 (shiftRatio a b (fitting a b)).2
    if m = twoPow 53 then
      if fitting a b + 1 > 971 then .infinite negative
      else .finite negative (twoPow 52) (fitting a b + 1)
    else if fitting a b > 971 then .infinite negative
    else .finite negative m (fitting a b) := by
  unfold ofRatio
  rfl

theorem ofRatio_proper {negative : Bool} (ha : 0 < a) (hb : 0 < b) :
    (ofRatio negative a b).isFinite = true → (ofRatio negative a b).Proper := by
  obtain ⟨high, low⟩ := fitting_bounds ha hb
  have pos := shiftRatio_pos (a := a) (e := fitting a b) hb
  have least : -1074 ≤ fitting a b := le_max_right ..
  rw [ofRatio_eq]
  generalize fitting a b = e at *
  generalize shiftRatio a b e = ratio at *
  obtain ⟨n, d⟩ := ratio
  obtain ⟨atLeast, atMost⟩ := roundDiv_bounds n d
  have quotient : n / d < 2 ^ 53 := (Nat.div_lt_iff_lt_mul pos).mpr high
  dsimp only
  split_ifs with carried beyond beyond
  · exact nofun
  · exact fun _ => ⟨by decide, by omega, by omega, .inl (by decide)⟩
  · exact nofun
  · intro _
    rw [twoPow_eq] at carried
    refine ⟨by omega, least, by omega, low.imp_left fun low => ?_⟩
    exact ((Nat.le_div_iff_mul_le pos).mpr low).trans atLeast

theorem roundDiv_eq_zero {m n : Nat} (pos : 0 < n) : roundDiv m n = 0 ↔ 2 * m ≤ n := by
  by_cases small : m < n
  · have quotient : m / n = 0 := Nat.div_eq_of_lt small
    have remainder : m % n = m := Nat.mod_eq_of_lt small
    simp only [roundDiv, quotient, remainder]
    split
    · omega
    · split <;> omega
  · have quotient : 0 < m / n := Nat.div_pos (Nat.not_lt.mp small) pos
    have above := (roundDiv_bounds m n).1
    omega

/-- The shifted quotient is at most one half as the quotient is at most half of the power. -/
theorem shiftRatio_half (hb : 0 < b) :
    2 * (shiftRatio a b e).1 ≤ (shiftRatio a b e).2 ↔ (a : ℚ) / b ≤ 2 ^ (e - 1) := by
  have pos : (0 : ℚ) < (shiftRatio a b e).2 := by exact_mod_cast shiftRatio_pos hb
  rw [zpow_sub_one₀ (by norm_num), ← div_le_iff₀' (two_zpow_pos e), ← shiftRatio_div,
    div_le_iff₀ pos, ← div_eq_inv_mul, le_div_iff₀' (by norm_num)]
  exact_mod_cast Iff.rfl

theorem rounded_of_wide (hb : 0 < b) (wide : fitting a b ≠ -1074)
    (ha : 0 < a) : roundDiv (shiftRatio a b (fitting a b)).1 (shiftRatio a b (fitting a b)).2 ≠ 0 := by
  have pos := shiftRatio_pos (a := a) (e := fitting a b) hb
  have low := (fitting_bounds ha hb).2.resolve_right wide
  rw [ne_eq, roundDiv_eq_zero pos]
  omega

/-- A quotient is rounded to nothing if it is at most half of the smallest number. -/
theorem rounded_eq_zero (ha : 0 < a) (hb : 0 < b) :
    roundDiv (shiftRatio a b (fitting a b)).1 (shiftRatio a b (fitting a b)).2 = 0 ↔
      (a : ℚ) / b ≤ 2 ^ (-1075 : Int) := by
  have pos := shiftRatio_pos (a := a) (e := fitting a b) hb
  have tiny := (roundDiv_eq_zero pos).trans (shiftRatio_half (a := a) hb)
  by_cases least : fitting a b = -1074
  · rw [tiny, least]
    norm_num
  · have above : (2 : ℚ) ^ (-1075 : Int) ≤ 2 ^ (fitting a b - 1) :=
      zpow_le_zpow_right₀ (by norm_num) (by simp only [fitting]; omega)
    have some := rounded_of_wide hb least ha
    exact iff_of_false some fun h => some (tiny.mpr (h.trans above))

/-- A quotient is read as a number greater than zero if it is more than half of the smallest one. -/
theorem ofRatio_isPositive {negative : Bool} (ha : 0 < a) (hb : 0 < b) :
    (ofRatio negative a b).isPositive = true ↔
      negative = false ∧ (2 : ℚ) ^ (-1075 : Int) < a / b := by
  have wide : fitting a b > 971 →
      roundDiv (shiftRatio a b (fitting a b)).1 (shiftRatio a b (fitting a b)).2 ≠ 0 :=
    fun beyond => rounded_of_wide hb (by omega) ha
  have carry : twoPow 52 ≠ 0 := by decide
  rw [← not_le, ← rounded_eq_zero ha hb, ofRatio_eq]
  generalize roundDiv (shiftRatio a b (fitting a b)).1 (shiftRatio a b (fitting a b)).2 = m at *
  dsimp only
  split_ifs with carried beyond beyond
  · have some : m ≠ 0 := carried ▸ by decide
    simp only [isPositive, Bool.not_eq_true', some, not_false_eq_true, and_true]
  · have some : m ≠ 0 := carried ▸ by decide
    simp only [isPositive, Bool.and_eq_true, Bool.not_eq_true', decide_eq_true_eq, carry, some,
      ne_eq, not_false_eq_true]
  · simp only [isPositive, Bool.not_eq_true', wide beyond, not_false_eq_true, and_true]
  · simp only [isPositive, Bool.and_eq_true, Bool.not_eq_true', decide_eq_true_eq, ne_eq]

/-- Every number that is read from a decimal text is infinite or of the format. -/
theorem ofDecimal_proper {negative : Bool} {digits : Nat} {scale : Int}
    (finite : (ofDecimal negative digits scale).isFinite = true) :
    (ofDecimal negative digits scale).Proper := by
  revert finite
  rw [ofDecimal]
  split_ifs with nothing huge tiny fraction
  · exact fun _ => zero_proper negative
  · exact nofun
  · exact fun _ => zero_proper negative
  · exact ofRatio_proper (Nat.pos_of_ne_zero nothing) (Number.tenPow_pos _)
  · exact ofRatio_proper (Nat.mul_pos (Nat.pos_of_ne_zero nothing) (Number.tenPow_pos _)) (by decide)

end Nearest

end QueryGateway.Binary64
