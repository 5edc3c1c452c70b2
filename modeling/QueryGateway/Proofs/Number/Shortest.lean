import Mathlib.Data.Nat.Cast.Order.Field
import Mathlib.Tactic.FieldSimp
import Mathlib.Tactic.Positivity
import QueryGateway.Number.Shortest
import QueryGateway.Proofs.Number.Rounding

/-!
# The shortest digits are read back

The digits of a finite number are looked for on decimal grids, from a coarse one to finer ones. What
is found on any grid lies among the numbers that are rounded to the one that is written, for that is
what a grid point is tested for (`gridPoint?_within`). And something is found: on the last grid the
points are so close together that the one below the number lies in its range
(`exists_last_gridPoint?`). So the value of the digits is rounded to the number
(`shortest_rounds`), and every decimal of that value is read as the number
(`ofDecimal_of_shortest`).

What is NOT here: that no shorter digits are read back, and that of two equally short ones the nearer
is taken.
-/

namespace QueryGateway.Binary64

open Number (tenPow twoPow twoPow_pos tenPow_pos ten_zpow_pos)

/-! ## Ratios -/

theorem scale10_pos {n d : Nat} (pos : 0 < d) (k : Int) : 0 < (scale10 n d k).2 := by
  rw [scale10]
  split
  · exact pos
  · exact Nat.mul_pos pos (tenPow_pos _)

theorem scale10_div (n d : Nat) (k : Int) :
    ((scale10 n d k).1 : ℚ) / (scale10 n d k).2 = n / d * 10 ^ k := by
  have power (j : Nat) : ((tenPow j : Nat) : ℚ) = 10 ^ j := by simp [tenPow]
  rw [scale10]
  split
  · rename_i natural
    obtain ⟨j, rfl⟩ := Int.eq_ofNat_of_zero_le natural
    rw [Int.toNat_natCast, zpow_natCast]
    push_cast [power]
    ring
  · rename_i negative
    obtain ⟨j, rfl⟩ : ∃ j : Nat, k = -j := ⟨(-k).toNat, by omega⟩
    rw [neg_neg, Int.toNat_natCast, zpow_neg, zpow_natCast]
    push_cast [power]
    rw [div_mul_eq_div_div, div_eq_mul_inv (_ / _)]

/-- A ratio lies between two bounds, the bounds counted in or not. -/
structure Within (closed : Bool) (low high : Nat) (r : ℚ) : Prop where
  atLeast : low ≤ r
  atMost : r ≤ high
  inside : closed = false → low < r ∧ r < high

theorem between_iff {closed : Bool} {low high n d : Nat} (pos : 0 < d) :
    between closed low high n d = true ↔ Within closed low high (n / d) := by
  have pos' : (0 : ℚ) < d := by exact_mod_cast pos
  have le_iff : low * d ≤ n ↔ (low : ℚ) ≤ n / d := by
    rw [le_div_iff₀ pos']
    exact_mod_cast Iff.rfl
  have ge_iff : n ≤ high * d ↔ (n : ℚ) / d ≤ high := by
    rw [div_le_iff₀ pos']
    exact_mod_cast Iff.rfl
  have lt_iff : low * d < n ↔ (low : ℚ) < n / d := by
    rw [lt_div_iff₀ pos']
    exact_mod_cast Iff.rfl
  have gt_iff : n < high * d ↔ (n : ℚ) / d < high := by
    rw [div_lt_iff₀ pos']
    exact_mod_cast Iff.rfl
  cases closed with
  | true =>
      simp only [between, if_true, Bool.and_eq_true, decide_eq_true_eq, le_iff, ge_iff]
      exact ⟨fun h => ⟨h.1, h.2, nofun⟩, fun h => ⟨h.atLeast, h.atMost⟩⟩
  | false =>
      simp only [between, Bool.false_eq_true, if_false, Bool.and_eq_true, decide_eq_true_eq, lt_iff,
        gt_iff]
      exact ⟨fun h => ⟨h.1.le, h.2.le, fun _ => h⟩, fun h => h.inside rfl⟩

/-- The first power of ten that a number reaches. -/
theorem decimalExponent_le {n d : Nat} (hn : 0 < n) (hd : 0 < d) :
    (10 : ℚ) ^ decimalExponent n d ≤ n / d := by
  have hn' : (0 : ℚ) < n := by exact_mod_cast hn
  have hd' : (0 : ℚ) < d := by exact_mod_cast hd
  rw [decimalExponent]
  split
  · rename_i large
    have some : 0 < n / d := Nat.div_pos large hd
    have digits : 0 < width (n / d) := List.length_pos_iff.mpr (Text.ofNat_ne_nil _)
    obtain ⟨low, -⟩ := Number.width_bounds some
    rw [show (width (n / d) : Int) - 1 = ((width (n / d) - 1 : Nat) : Int) by omega, zpow_natCast,
      le_div_iff₀ hd']
    exact_mod_cast (Nat.mul_le_mul_right d low).trans (Nat.div_mul_le_self n d)
  · rename_i small
    dsimp only
    have ceiling : d ≤ (d + n - 1) / n * n := by
      have whole := Nat.div_add_mod' (d + n - 1) n
      have rest := Nat.mod_lt (d + n - 1) hn
      omega
    have some : 0 < (d + n - 1) / n - 1 := by
      have two : 2 ≤ (d + n - 1) / n := (Nat.le_div_iff_mul_le hn).mpr (by omega)
      omega
    obtain ⟨-, high⟩ := Number.width_bounds some
    have power : d ≤ 10 ^ width ((d + n - 1) / n - 1) * n :=
      ceiling.trans (Nat.mul_le_mul_right n (by omega))
    rw [Int.negOfNat_eq, zpow_neg, Int.ofNat_eq_natCast, zpow_natCast, inv_le_comm₀ (by positivity)
      (by positivity), inv_div, div_le_iff₀ hn']
    exact_mod_cast power

/-! ## Grid points -/

section Grid
variable {closed : Bool} {low high value n d : Nat}

/-- A grid point stands for a number in the range that it was looked for in. -/
theorem gridPoint?_within (hn : 0 < n) {k : Int} {p : Nat}
    (h : gridPoint? closed low high value n d k = some p) :
    Within closed low high (p * d / n * 10 ^ k) := by
  have tested {q : Nat} (fits : between closed low high (scale10 (q * d) n k).1
      (scale10 (q * d) n k).2 = true) : Within closed low high (q * d / n * 10 ^ k) := by
    have within := (between_iff (scale10_pos hn k)).mp fits
    rw [scale10_div] at within
    exact_mod_cast within
  simp only [gridPoint?] at h
  split at h
  · rename_i both
    rw [Bool.and_eq_true, Bool.and_eq_true] at both
    obtain ⟨⟨-, lower⟩, upper⟩ := both
    split at h
    · cases h
      exact tested lower
    · split at h
      · cases h
        exact tested upper
      · cases h
        rcases Nat.mod_two_eq_zero_or_one
          ((scale10 (value * n) d (-k)).1 / (scale10 (value * n) d (-k)).2) with even | odd
        · rw [even, Nat.add_zero]
          exact tested lower
        · rw [odd]
          exact tested upper
  · split at h
    · rename_i lower
      cases h
      exact tested (Bool.and_eq_true_iff.mp lower).2
    · split at h
      · rename_i upper
        cases h
        exact tested upper
      · cases h

/-- There is a grid point if the one below the number is in the range. -/
theorem exists_gridPoint? (hn : 0 < n) {k : Int} {q : Nat}
    (below : q = (scale10 (value * n) d (-k)).1 / (scale10 (value * n) d (-k)).2) (some : q ≠ 0)
    (within : Within closed low high (q * d / n * 10 ^ k)) :
    ∃ p, gridPoint? closed low high value n d k = Option.some p := by
  have fits : between closed low high (scale10 (q * d) n k).1 (scale10 (q * d) n k).2 = true := by
    rw [between_iff (scale10_pos hn k), scale10_div]
    exact_mod_cast within
  have lower : (decide (q ≠ 0) && between closed low high (scale10 (q * d) n k).1
      (scale10 (q * d) n k).2) = true := by
    rw [fits, Bool.and_true]
    exact decide_eq_true some
  simp only [gridPoint?, ← below, lower, Bool.true_and, if_true]
  split
  · split
    · exact ⟨_, rfl⟩
    · split <;> exact ⟨_, rfl⟩
  · exact ⟨_, rfl⟩

/-- The search ends with a point in the range if there is one on some grid that it comes to. -/
theorem firstGridPoint_within (hn : 0 < n) {k : Int} {grids : Nat} {i : Nat} (among : i < grids)
    (found : ∃ p, gridPoint? closed low high value n d (k - i) = some p) :
    Within closed low high ((firstGridPoint closed low high value n d k grids).1 * d / n *
      10 ^ (firstGridPoint closed low high value n d k grids).2) := by
  induction grids generalizing k i with
  | zero => exact absurd among (Nat.not_lt_zero i)
  | succ grids ih =>
      rw [firstGridPoint]
      cases here : gridPoint? closed low high value n d k with
      | some q => exact gridPoint?_within hn here
      | none =>
          cases i with
          | zero =>
              obtain ⟨p, found⟩ := found
              rw [Int.ofNat_zero, Int.sub_zero, here] at found
              cases found
          | succ i =>
              refine ih (Nat.lt_of_succ_lt_succ among) ?_
              rwa [show k - 1 - (i : Int) = k - ((i + 1 : Nat) : Int) by push_cast; ring]

end Grid

theorem dropZeros_eq (fuel n : Nat) :
    ((dropZeros fuel n).1 : ℚ) * 10 ^ (dropZeros fuel n).2 = n := by
  induction fuel generalizing n with
  | zero => simp [dropZeros]
  | succ fuel ih =>
      rw [dropZeros]
      split
      · rename_i zero
        have tenth : n = n / 10 * 10 := by omega
        calc ((dropZeros fuel (n / 10)).1 : ℚ) * 10 ^ ((dropZeros fuel (n / 10)).2 + 1)
            = (dropZeros fuel (n / 10)).1 * 10 ^ (dropZeros fuel (n / 10)).2 * 10 := by ring
          _ = (n / 10 : Nat) * 10 := by rw [ih]
          _ = n := by exact_mod_cast tenth.symm
      · simp

/-! ## The digits of a number -/

section Shortest
variable {negative : Bool} {m : Nat} {e : Int}

/-- The unit in which the range of a number is given, as a ratio. -/
def quarter (e : Int) : Nat × Nat :=
  if 0 ≤ e - 2 then (twoPow (e - 2).toNat, 1) else (1, twoPow (2 - e).toNat)

theorem quarter_pos (e : Int) : 0 < (quarter e).1 ∧ 0 < (quarter e).2 := by
  rw [quarter]
  split
  · exact ⟨twoPow_pos _, Nat.one_pos⟩
  · exact ⟨Nat.one_pos, twoPow_pos _⟩

theorem quarter_div (e : Int) : ((quarter e).1 : ℚ) / (quarter e).2 = 2 ^ (e - 2) := by
  rw [quarter]
  split
  · rename_i natural
    obtain ⟨j, hj⟩ := Int.eq_ofNat_of_zero_le natural
    rw [hj, Int.toNat_natCast, zpow_natCast]
    simp [twoPow]
  · rename_i negative
    obtain ⟨j, hj⟩ : ∃ j : Nat, e - 2 = -j := ⟨(2 - e).toNat, by omega⟩
    rw [show 2 - e = (j : Int) by omega, hj, Int.toNat_natCast, zpow_neg, zpow_natCast]
    simp [twoPow]

/-- The range of a number is what is rounded to it. -/
theorem rounds_of_within (pos : 0 < m) {r : ℚ}
    (h : Within (decide (m % 2 = 0)) (roundingRange m e).1 (roundingRange m e).2 r) :
    Rounds m e (r * 2 ^ (e - 2)) := by
  have low : ((roundingRange m e).1 : ℚ) = 4 * (m - gapBelow m e) := by
    rw [roundingRange, gapBelow]
    split
    · rw [Nat.cast_sub (by omega)]
      push_cast
      ring
    · rw [Nat.cast_sub (by omega)]
      push_cast
      ring
  have high : ((roundingRange m e).2 : ℚ) = 4 * (m + 1 / 2) := by
    rw [roundingRange]
    push_cast
    ring
  have unit := two_zpow_pos (e - 2)
  have four : (2 : ℚ) ^ e = 4 * 2 ^ (e - 2) := by
    rw [show (4 : ℚ) = 2 ^ (2 : Int) by norm_num, ← zpow_add₀ (by norm_num)]
    congr 1
    ring
  obtain ⟨atLeast, atMost, inside⟩ := h
  rw [low] at atLeast inside
  rw [high] at atMost inside
  rw [decide_eq_false_iff_not] at inside
  have scaled {c : ℚ} : c * 2 ^ e = 4 * c * 2 ^ (e - 2) := by
    rw [four]
    ring
  refine ⟨?_, ?_, fun odd => ⟨?_, ?_⟩⟩
  · rw [scaled]
    exact mul_le_mul_of_nonneg_right atLeast unit.le
  · rw [scaled]
    exact mul_le_mul_of_nonneg_right atMost unit.le
  · rw [scaled]
    exact mul_lt_mul_of_pos_right (inside odd).1 unit
  · rw [scaled]
    exact mul_lt_mul_of_pos_right (inside odd).2 unit

theorem roundingRange_lt (m : Nat) (e : Int) (pos : 0 < m) :
    (roundingRange m e).1 + 1 ≤ 4 * m ∧ 4 * m < (roundingRange m e).2 := by
  rw [roundingRange]
  split <;> omega

/-- On the last grid the points are less than a quarter apart, for the number has eighteen digits in
front of that grid and less than eighteen in quarters. -/
theorem last_step_lt {n d top : ℚ} (hn : 0 < n) (hd : 0 < d) (wide : m < 2 ^ 53)
    (reaches : top ≤ (4 * m : Nat) * n / d) : d / n * (top / 10 ^ 17) < 1 := by
  have digits : ((4 * m : Nat) : ℚ) < 10 ^ 17 := by
    have whole : 4 * m < 10 ^ 17 := by omega
    exact_mod_cast whole
  rw [le_div_iff₀ hd] at reaches
  have bound : top * d < 10 ^ 17 * n :=
    reaches.trans_lt (mul_lt_mul_of_pos_right digits hn)
  rw [div_mul_div_comm, div_lt_one (by positivity)]
  linarith

/-- The number rounded down to a grid lies less than one step below it. -/
theorem rounded_down_bounds {value n d q : Nat} {k : Int} (hn : (0 : ℚ) < n) (hd : 0 < d)
    (below : q = (scale10 (value * n) d (-k)).1 / (scale10 (value * n) d (-k)).2) :
    q * (d / n * 10 ^ k) ≤ (value : ℚ) ∧ (value : ℚ) < (q + 1) * (d / n * 10 ^ k) := by
  have hd' : (0 : ℚ) < d := by exact_mod_cast hd
  have step : (0 : ℚ) < d / n * 10 ^ k := mul_pos (div_pos hd' hn) (ten_zpow_pos k)
  have steps : ((scale10 (value * n) d (-k)).1 : ℚ) / (scale10 (value * n) d (-k)).2 *
      (d / n * 10 ^ k) = value := by
    rw [scale10_div, zpow_neg, Nat.cast_mul]
    have ten := (ten_zpow_pos k).ne'
    field_simp
  constructor
  · rw [← steps, below]
    exact mul_le_mul_of_nonneg_right Nat.cast_div_le step.le
  · rw [← steps, below]
    refine mul_lt_mul_of_pos_right ?_ step
    rw [div_lt_iff₀' (by exact_mod_cast scale10_pos hd (-k))]
    exact_mod_cast Nat.lt_mul_div_succ _ (scale10_pos hd (-k))

/-- Somewhere on the way to the last grid there is a point in the range. -/
theorem exists_last_gridPoint? (pos : 0 < m) (wide : m < 2 ^ 53) (closed : Bool) :
    ∃ p, gridPoint? closed (roundingRange m e).1 (roundingRange m e).2 (4 * m) (quarter e).1
      (quarter e).2 (decimalExponent (4 * m * (quarter e).1) (quarter e).2 + 1 - (18 : Nat)) =
        some p := by
  obtain ⟨hn, hd⟩ := quarter_pos e
  obtain ⟨low, high⟩ := roundingRange_lt m e pos
  generalize roundingRange m e = range at *
  generalize (quarter e).1 = n at *
  generalize (quarter e).2 = d at *
  have hn' : (0 : ℚ) < n := by exact_mod_cast hn
  have hd' : (0 : ℚ) < d := by exact_mod_cast hd
  have reaches := decimalExponent_le (n := 4 * m * n) (by positivity) hd
  generalize decimalExponent (4 * m * n) d = top at *
  have power : (10 : ℚ) ^ (top + 1 - (18 : Nat)) = 10 ^ top / 10 ^ 17 := by
    rw [show top + 1 - ((18 : Nat) : Int) = top - (17 : Nat) by push_cast; ring,
      zpow_sub₀ (by norm_num), zpow_natCast]
  generalize top + 1 - ((18 : Nat) : Int) = k at *
  rw [Nat.cast_mul] at reaches
  have close : (d : ℚ) / n * 10 ^ k < 1 := power ▸ last_step_lt hn' hd' wide reaches
  obtain ⟨q, below⟩ : ∃ q, q = (scale10 (4 * m * n) d (-k)).1 / (scale10 (4 * m * n) d (-k)).2 :=
    ⟨_, rfl⟩
  obtain ⟨under, above⟩ := rounded_down_bounds hn' hd below
  have regrouped : (q : ℚ) * d / n * 10 ^ k = q * (d / n * 10 ^ k) := by ring
  have near : ((4 * m : Nat) : ℚ) - 1 < q * (d / n * 10 ^ k) := by linarith
  have low' : (range.1 : ℚ) + 1 ≤ (4 * m : Nat) := by exact_mod_cast low
  have high' : ((4 * m : Nat) : ℚ) < range.2 := by exact_mod_cast high
  have inside : (range.1 : ℚ) < q * (d / n * 10 ^ k) ∧ q * (d / n * 10 ^ k) < (range.2 : ℚ) :=
    ⟨by linarith, by linarith⟩
  refine exists_gridPoint? hn below ?_ ?_
  · rintro rfl
    have whole : (1 : ℚ) ≤ (4 * m : Nat) := by exact_mod_cast (by omega : 1 ≤ 4 * m)
    rw [Nat.cast_zero, zero_mul] at near
    linarith
  · rw [regrouped]
    exact ⟨inside.1.le, inside.2.le, fun _ => inside⟩

theorem shortest_eq (m : Nat) (e : Int) : shortest m e =
    let point := firstGridPoint (decide (m % 2 = 0)) (roundingRange m e).1 (roundingRange m e).2
      (4 * m) (quarter e).1 (quarter e).2
      (decimalExponent (4 * m * (quarter e).1) (quarter e).2 + 1) 19
    ((dropZeros 20 point.1).1, point.2 + (dropZeros 20 point.1).2) := by
  unfold shortest
  generalize roundingRange m e = range
  obtain ⟨low, high⟩ := range
  rw [← quarter]

/-- The shortest digits of a number stand for something that is rounded to it. -/
theorem shortest_rounds (pos : 0 < m) (wide : m < 2 ^ 53) :
    Rounds m e ((shortest m e).1 * 10 ^ (shortest m e).2) := by
  obtain ⟨hn, hd⟩ := quarter_pos e
  have rounds := rounds_of_within pos (firstGridPoint_within hn (show 18 < 19 by decide)
    (exists_last_gridPoint? (e := e) pos wide (decide (m % 2 = 0))))
  rw [shortest_eq]
  generalize firstGridPoint (decide (m % 2 = 0)) (roundingRange m e).1 (roundingRange m e).2 (4 * m)
    (quarter e).1 (quarter e).2 (decimalExponent (4 * m * (quarter e).1) (quarter e).2 + 1) 19 =
      point at rounds ⊢
  have units : (point.1 : ℚ) * (quarter e).2 / (quarter e).1 * 10 ^ point.2 * 2 ^ (e - 2) =
      point.1 * 10 ^ point.2 := by
    have hn' : ((quarter e).1 : ℚ) ≠ 0 := by exact_mod_cast hn.ne'
    have hd' : ((quarter e).2 : ℚ) ≠ 0 := by exact_mod_cast hd.ne'
    rw [← quarter_div]
    field_simp
  have dropped : ((dropZeros 20 point.1).1 : ℚ) * 10 ^ (point.2 + (dropZeros 20 point.1).2) =
      point.1 * 10 ^ point.2 := by
    rw [← dropZeros_eq 20 point.1, zpow_add₀ (by norm_num), zpow_natCast]
    ring
  rw [units, ← dropped] at rounds
  exact rounds

/-- A decimal with the value of the shortest digits is read as the number. -/
theorem ofDecimal_of_shortest (proper : (finite negative m e).Proper) (pos : 0 < m) {digits : Nat}
    {scale : Int} (same : (digits : ℚ) * 10 ^ scale = (shortest m e).1 * 10 ^ (shortest m e).2) :
    ofDecimal negative digits scale = .finite negative m e :=
  ofDecimal_rounds proper pos (same ▸ shortest_rounds pos proper.1)

theorem shortest_pos (proper : (finite negative m e).Proper) (pos : 0 < m) :
    0 < (shortest m e).1 := by
  have above := (two_zpow_pos _).trans_le ((shortest_rounds pos proper.1).ge pos proper.2.1)
  refine Nat.pos_of_ne_zero fun zero => ?_
  rw [zero, Nat.cast_zero, zero_mul] at above
  exact lt_irrefl _ above

end Shortest

end QueryGateway.Binary64
