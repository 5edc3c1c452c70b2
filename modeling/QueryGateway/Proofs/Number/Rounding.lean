import QueryGateway.Proofs.Number.Numeral

/-!
# Which decimals are read as a number

Reading a decimal rounds it. `Rounds m e x` says which rational numbers are rounded to `m · 2 ^ e`:
those at most half a unit away from it, but below a power of two, where the numbers of the format
are twice as dense, those at most a quarter of one away. An `x` half way between two numbers goes to
the even one of them.

`ofRatio_rounds` and `ofDecimal_rounds` say that the reader rounds so. The exponent is found from the
leading power of two of `x`, and that can be one below the exponent of the number: just below a power
of two, where the digits are rounded up and carry.

What is NOT here: what is read from a number that is too large or too small for the format.
-/

namespace QueryGateway.Binary64

open Number (tenPow twoPow)

/-! ## Division with rounding -/

/-- A quotient is rounded to an integer at most one half away, and to an even one if it is exactly
one half away. -/
theorem roundDiv_eq {n d m : Nat} (pos : 0 < d) (low : 2 * (m * d) ≤ 2 * n + d)
    (high : 2 * n ≤ 2 * (m * d) + d)
    (inside : m % 2 ≠ 0 → 2 * (m * d) < 2 * n + d ∧ 2 * n < 2 * (m * d) + d) :
    roundDiv n d = m := by
  have whole : n / d * d + n % d = n := Nat.div_add_mod' n d
  have rest : n % d < d := Nat.mod_lt n pos
  have below : n / d ≤ m := by
    by_contra more
    have larger : (m + 1) * d ≤ n / d * d := Nat.mul_le_mul_right d (by omega)
    rw [Nat.add_mul] at larger
    omega
  have above : m ≤ n / d + 1 := by
    by_contra less
    have smaller : (n / d + 2) * d ≤ m * d := Nat.mul_le_mul_right d (by omega)
    rw [Nat.add_mul] at smaller
    omega
  rw [roundDiv]
  rcases Nat.lt_or_ge (n / d) m with less | same
  · obtain rfl : m = n / d + 1 := by omega
    rw [Nat.add_mul] at low high inside
    split_ifs <;> omega
  · obtain rfl : m = n / d := by omega
    split_ifs <;> omega

/-- The same for a quotient over a power of two. -/
theorem roundDiv_shiftRatio {a b m : Nat} {e : Int} (hb : 0 < b)
    (low : (m - 1 / 2 : ℚ) * 2 ^ e ≤ a / b) (high : (a : ℚ) / b ≤ (m + 1 / 2) * 2 ^ e)
    (inside : m % 2 ≠ 0 → (m - 1 / 2 : ℚ) * 2 ^ e < a / b ∧ (a : ℚ) / b < (m + 1 / 2) * 2 ^ e) :
    roundDiv (shiftRatio a b e).1 (shiftRatio a b e).2 = m := by
  have pos : 0 < (shiftRatio a b e).2 := shiftRatio_pos hb
  have pos' : (0 : ℚ) < (shiftRatio a b e).2 := by exact_mod_cast pos
  have scaled : (a : ℚ) / b = (shiftRatio a b e).1 / (shiftRatio a b e).2 * 2 ^ e := by
    rw [shiftRatio_div, div_mul_cancel₀ _ (two_zpow_pos e).ne']
  rw [scaled] at low high inside
  generalize shiftRatio a b e = ratio at *
  obtain ⟨n, d⟩ := ratio
  simp only [mul_le_mul_iff_left₀ (two_zpow_pos e), mul_lt_mul_iff_left₀ (two_zpow_pos e),
    le_div_iff₀ pos', div_le_iff₀ pos', lt_div_iff₀ pos', div_lt_iff₀ pos'] at low high inside
  have low' : 2 * ((m : ℚ) * d) ≤ 2 * n + d := by linarith
  have high' : 2 * (n : ℚ) ≤ 2 * (m * d) + d := by linarith
  refine roundDiv_eq pos (by exact_mod_cast low') (by exact_mod_cast high') fun odd => ?_
  obtain ⟨above, below⟩ := inside odd
  have above' : 2 * ((m : ℚ) * d) < 2 * n + d := by linarith
  have below' : 2 * (n : ℚ) < 2 * (m * d) + d := by linarith
  exact ⟨by exact_mod_cast above', by exact_mod_cast below'⟩

/-! ## What is rounded to a number -/

/-- Half of the distance to the next number below, in units of the number. -/
def gapBelow (m : Nat) (e : Int) : ℚ := if m = twoPow 52 ∧ e > -1074 then 1 / 4 else 1 / 2

theorem gapBelow_le (m : Nat) (e : Int) : gapBelow m e ≤ 1 / 2 := by
  rw [gapBelow]
  split <;> norm_num

/-- The rational number is rounded to `m · 2 ^ e`. -/
structure Rounds (m : Nat) (e : Int) (x : ℚ) : Prop where
  low : (m - gapBelow m e) * 2 ^ e ≤ x
  high : x ≤ (m + 1 / 2) * 2 ^ e
  inside : m % 2 ≠ 0 → (m - gapBelow m e) * 2 ^ e < x ∧ x < (m + 1 / 2) * 2 ^ e

section Rounds
variable {negative : Bool} {m : Nat} {e : Int} {x : ℚ}

theorem Rounds.halfBelow (h : Rounds m e x) : (m - 1 / 2) * 2 ^ e ≤ x := by
  have wider : (m - 1 / 2 : ℚ) * 2 ^ e ≤ (m - gapBelow m e) * 2 ^ e :=
    mul_le_mul_of_nonneg_right (by linarith [gapBelow_le m e]) (two_zpow_pos e).le
  exact wider.trans h.low

theorem Rounds.odd (h : Rounds m e x) (odd : m % 2 ≠ 0) :
    (m - 1 / 2) * 2 ^ e < x ∧ x < (m + 1 / 2) * 2 ^ e := by
  have wide : gapBelow m e = 1 / 2 := by
    rw [gapBelow, if_neg]
    rintro ⟨rfl, -⟩
    exact odd (by decide)
  exact wide ▸ h.inside odd

theorem Rounds.lt (h : Rounds m e x) (wide : m < 2 ^ 53) : x < 2 ^ (53 + e) := by
  have below : (m : ℚ) + 1 / 2 < 2 ^ 53 := by
    have whole : (m : ℚ) + 1 ≤ 2 ^ 53 := by exact_mod_cast wide
    linarith
  have bound : ((m : ℚ) + 1 / 2) * 2 ^ e < 2 ^ 53 * 2 ^ e :=
    mul_lt_mul_of_pos_right below (two_zpow_pos e)
  rw [zpow_add₀ (by norm_num)]
  exact h.high.trans_lt bound

theorem Rounds.ge (h : Rounds m e x) (pos : 0 < m) (least : -1074 ≤ e) :
    (2 : ℚ) ^ (-1075 : Int) ≤ x := by
  have half : (1 / 2 : ℚ) ≤ m - 1 / 2 := by
    have whole : (1 : ℚ) ≤ m := by exact_mod_cast pos
    linarith
  calc (2 : ℚ) ^ (-1075 : Int) ≤ 2 ^ (e - 1) := zpow_le_zpow_right₀ (by norm_num) (by omega)
    _ = 1 / 2 * 2 ^ e := by rw [zpow_sub_one₀ (by norm_num)]; ring
    _ ≤ (m - 1 / 2) * 2 ^ e := mul_le_mul_of_nonneg_right half (two_zpow_pos e).le
    _ ≤ x := h.halfBelow

end Rounds

section Reading
variable {negative : Bool} {m a b : Nat} {e : Int}

/-- The exponent that fits is that of the number, unless the quotient lies below a power of two that
it is rounded to. -/
theorem fitting_rounds (proper : (finite negative m e).Proper) (ha : 0 < a) (hb : 0 < b)
    (h : Rounds m e (a / b)) :
    fitting a b = e ∨
      fitting a b = e - 1 ∧ m = 2 ^ 52 ∧ -1074 < e ∧ (a : ℚ) / b < 2 ^ (52 + e) := by
  obtain ⟨wide, least, -, narrow⟩ := proper
  obtain ⟨leads, trails⟩ := leading_bounds ha hb
  have two : (1 : ℚ) < 2 := by norm_num
  have zero : (2 : ℚ) ≠ 0 := by norm_num
  have most : leading a b < 53 + e := (zpow_lt_zpow_iff_right₀ two).mp (leads.trans_lt (h.lt wide))
  by_cases bottom : e = -1074
  · left
    simp only [fitting]
    omega
  by_cases full : (2 : ℚ) ^ (52 + e) ≤ a / b
  · left
    have some := (zpow_lt_zpow_iff_right₀ two).mp (full.trans_lt trails)
    simp only [fitting]
    omega
  · right
    have short := not_le.mp full
    have large : 2 ^ 52 ≤ m := narrow.resolve_right bottom
    have small : m = 2 ^ 52 := by
      rw [zpow_add₀ zero] at short
      have below := h.halfBelow.trans_lt short
      rw [mul_lt_mul_iff_left₀ (two_zpow_pos e)] at below
      have power : ((2 ^ 52 + 1 : Nat) : ℚ) = 2 ^ (52 : Int) + 1 := by norm_num
      have next : (m : ℚ) < (2 ^ 52 + 1 : Nat) := by linarith
      have whole : m < 2 ^ 52 + 1 := by exact_mod_cast next
      omega
    have half : (2 : ℚ) ^ (51 + e) ≤ a / b := by
      refine le_trans ?_ h.halfBelow
      rw [zpow_add₀ zero, small]
      exact mul_le_mul_of_nonneg_right (by norm_num) (two_zpow_pos e).le
    have some := (zpow_lt_zpow_iff_right₀ two).mp (half.trans_lt trails)
    have more := (zpow_lt_zpow_iff_right₀ two).mp (leads.trans_lt short)
    refine ⟨?_, small, by omega, short⟩
    simp only [fitting]
    omega

theorem ofRatio_rounds (proper : (finite negative m e).Proper) (ha : 0 < a) (hb : 0 < b)
    (h : Rounds m e (a / b)) : ofRatio negative a b = .finite negative m e := by
  obtain ⟨wide, least, most, -⟩ := id proper
  rw [ofRatio_eq]
  rcases fitting_rounds proper ha hb h with fits | ⟨fits, rfl, above, short⟩
  · rw [fits, roundDiv_shiftRatio hb h.halfBelow h.high h.odd]
    have whole : m ≠ twoPow 53 := wide.ne
    dsimp only
    rw [if_neg whole, if_neg (by omega)]
  · -- rounding carries: the digits are a power of two, one bit too long
    have gap : gapBelow (2 ^ 52) e = 1 / 4 := if_pos ⟨rfl, above⟩
    have low := h.low
    rw [gap] at low
    have carried : roundDiv (shiftRatio a b (e - 1)).1 (shiftRatio a b (e - 1)).2 = 2 ^ 53 := by
      have half : (2 : ℚ) ^ e = 2 ^ (e - 1) * 2 := by
        rw [zpow_sub_one₀ (by norm_num)]
        ring
      have power : (2 : ℚ) ^ (52 + e) = 2 ^ 53 * 2 ^ (e - 1) := by
        rw [zpow_add₀ (by norm_num), half]
        norm_num
        ring
      have unit := two_zpow_pos (e - 1)
      rw [half] at low
      rw [power] at short
      push_cast at low
      refine roundDiv_shiftRatio hb ?_ ?_ fun odd => absurd rfl odd
      · push_cast
        linarith
      · push_cast
        linarith
    have full : 2 ^ 53 = twoPow 53 := rfl
    rw [fits, carried]
    dsimp only
    rw [if_pos full, if_neg (by omega), Int.sub_add_cancel]
    rfl

/-- Every decimal that is rounded to a number of the format is read as that number. -/
theorem ofDecimal_rounds (proper : (finite negative m e).Proper) (pos : 0 < m) {digits : Nat}
    {scale : Int} (h : Rounds m e (digits * 10 ^ scale)) :
    ofDecimal negative digits scale = .finite negative m e := by
  obtain ⟨wide, least, most, -⟩ := id proper
  have ten : (1 : ℚ) < 10 := by norm_num
  have some : 0 < digits := by
    refine Nat.pos_of_ne_zero fun zero => ?_
    have above := (two_zpow_pos (-1075)).trans_le (h.ge pos least)
    rw [zero, Nat.cast_zero, zero_mul] at above
    exact lt_irrefl _ above
  obtain ⟨low, high⟩ := Number.scaled_bounds some scale
  have notHuge : (width digits : Int) - 1 + scale < 309 := by
    have powers : (2 : ℚ) ^ (1024 : Int) ≤ 10 ^ (309 : Int) := by
      have whole : 2 ^ 1024 ≤ 10 ^ 309 := by decide +kernel
      exact_mod_cast whole
    have top : (2 : ℚ) ^ (53 + e) ≤ 2 ^ (1024 : Int) := zpow_le_zpow_right₀ (by norm_num) (by omega)
    exact (zpow_lt_zpow_iff_right₀ ten).mp
      (low.trans_lt ((h.lt wide).trans_le (top.trans powers)))
  have notTiny : (-331 : Int) < width digits + scale := by
    have powers : (10 : ℚ) ^ (-331 : Int) ≤ 2 ^ (-1075 : Int) := by
      have whole : 2 ^ 1075 ≤ 10 ^ 331 := by decide +kernel
      rw [zpow_neg, zpow_neg]
      exact inv_anti₀ (two_zpow_pos _) (by exact_mod_cast whole)
    exact (zpow_lt_zpow_iff_right₀ ten).mp ((powers.trans (h.ge pos least)).trans_lt high)
  rw [ofDecimal, if_neg some.ne', if_neg (by omega), if_neg (by omega)]
  split
  · obtain ⟨k, rfl⟩ : ∃ k : Nat, scale = -k := ⟨(-scale).toNat, by omega⟩
    refine ofRatio_rounds proper some (Number.tenPow_pos _) ?_
    rw [neg_neg, Int.toNat_natCast]
    rw [zpow_neg, zpow_natCast, ← div_eq_mul_inv] at h
    have power : ((tenPow k : Nat) : ℚ) = 10 ^ k := by simp [tenPow]
    rwa [power]
  · rename_i positive
    obtain ⟨k, rfl⟩ := Int.eq_ofNat_of_zero_le (Int.not_lt.mp positive)
    refine ofRatio_rounds proper (Nat.mul_pos some (Number.tenPow_pos _)) (by decide) ?_
    rw [zpow_natCast] at h
    simpa [tenPow] using h

end Reading

end QueryGateway.Binary64
