import QueryGateway.Number.Notation
import QueryGateway.Proofs.Json.Spelling
import QueryGateway.Proofs.Number.Shortest

/-!
# Written floating point numbers are JSON

Whatever layout a finite number is written in, what is written is a number of JSON, and it is read as
the number (`scalar_write`). There are two forms, with a point among the digits and with an exponent
behind them. Both put the shortest digits down, and in both the place of the point and the exponent
make up for each other, so each text has the value of the digits (`Decimal`). A zero of either sign
is written with its sign.

What is NOT here: the numbers that are not finite. Their names depend on the layout, and JSON knows
only some of them.
-/

namespace QueryGateway

open Text

namespace Text

/-- A number greater than zero does not begin with one. -/
theorem ofNat_cons {n : Nat} (pos : 0 < n) :
    ∃ c rest, ofNat n = c :: rest ∧ c ≠ CodePoint.ofChar '0' := by
  obtain ⟨c, rest, cons⟩ := List.exists_cons_of_ne_nil (ofNat_ne_nil n)
  refine ⟨c, rest, cons, ?_⟩
  rintro rfl
  obtain rfl := ofNat_leading cons
  have value := digitsValue_ofNat n
  rw [cons] at value
  exact pos.ne value

theorem digitsValue_append_zeros (ds : Text) (k : Nat) :
    digitsValue (ds ++ List.replicate k (CodePoint.ofChar '0')) = digitsValue ds * 10 ^ k := by
  induction k with
  | zero => rw [List.replicate_zero, List.append_nil, Nat.pow_zero, Nat.mul_one]
  | succ k ih =>
      rw [List.replicate_succ', ← List.append_assoc, digitsValue_concat, ih]
      show 10 * (digitsValue ds * 10 ^ k) + 0 = digitsValue ds * 10 ^ (k + 1)
      ring

theorem isDigits_zeros (k : Nat) : IsDigits (List.replicate k (CodePoint.ofChar '0')) := by
  intro c mem
  rw [List.eq_of_mem_replicate mem]
  decide

end Text

namespace Json

open Number

/-! ## Decimals and their values -/

/-- Digits with a point or an exponent, and the value that they stand for. -/
inductive Decimal : Text → ℚ → Prop
  | parts {ds f e : Text} {after : Option Text} {exponent : Option Int} : Whole ds →
      Fraction f after → Exponent e exponent → f ++ e ≠ [] →
      Decimal (ds ++ (f ++ e)) (digitsValue (ds ++ after.getD []) *
        10 ^ (exponent.getD 0 - (after.getD []).length))

theorem whole_of_cons {c : CodePoint} {ds : Text} (digits : IsDigits (c :: ds))
    (leading : c ≠ CodePoint.ofChar '0') : Whole (c :: ds) := by
  refine ⟨⟨digits, List.cons_ne_nil _ _⟩, ?_⟩
  intro more same
  exact absurd (List.cons.inj same).1 leading

theorem whole_zero : Whole [CodePoint.ofChar '0'] :=
  ⟨⟨isDigits_zeros 1, List.cons_ne_nil _ _⟩, fun same => (List.cons.inj same).2.symm⟩

section Forms
variable {n : Nat}

/-- Digits behind a point and zeros. -/
theorem decimal_small (n k : Nat) :
    Decimal (positional (ofNat n) (-k)) (n * 10 ^ (-k - (ofNat n).length : Int)) := by
  have after : Digits (List.replicate k (CodePoint.ofChar '0') ++ ofNat n) :=
    ⟨List.forall_mem_append.mpr ⟨isDigits_zeros k, ofNat_isDigits n⟩,
      List.append_ne_nil_of_right_ne_nil _ (ofNat_ne_nil n)⟩
  have decimal := Decimal.parts whole_zero (.digits after) .absent (List.cons_ne_nil _ _)
  have value : digitsValue ([CodePoint.ofChar '0'] ++
      (List.replicate k (CodePoint.ofChar '0') ++ ofNat n)) = n :=
    (digitsValue_zeros (k + 1) (ofNat n)).trans (digitsValue_ofNat n)
  have places : (0 : Int) - (List.replicate k (CodePoint.ofChar '0') ++ ofNat n).length =
      -k - (ofNat n).length := by
    rw [List.length_append, List.length_replicate]
    omega
  rw [Option.getD_some, Option.getD_none, value, places, List.append_nil] at decimal
  rw [positional, if_pos (by omega), neg_neg, Int.toNat_natCast]
  exact decimal

/-- Digits and zeros before a point. -/
theorem decimal_large (pos : 0 < n) (k : Nat) :
    Decimal (positional (ofNat n) ((ofNat n).length + k : Nat)) (n * 10 ^ (k : Int)) := by
  obtain ⟨c, rest, cons, leading⟩ := ofNat_cons pos
  have some : 0 < (ofNat n).length := List.length_pos_iff.mpr (ofNat_ne_nil n)
  have before : Whole (ofNat n ++ List.replicate k (CodePoint.ofChar '0')) := by
    have digits : IsDigits (ofNat n ++ List.replicate k (CodePoint.ofChar '0')) :=
      List.forall_mem_append.mpr ⟨ofNat_isDigits n, isDigits_zeros k⟩
    rw [cons] at digits ⊢
    exact whole_of_cons digits leading
  have decimal := Decimal.parts before (.digits whole_zero.toDigits) .absent (List.cons_ne_nil _ _)
  have value : digitsValue (ofNat n ++ List.replicate k (CodePoint.ofChar '0') ++
      [CodePoint.ofChar '0']) = n * 10 ^ (k + 1) := by
    have zeros := digitsValue_append_zeros (ofNat n) (k + 1)
    rwa [List.replicate_succ', ← List.append_assoc, digitsValue_ofNat] at zeros
  have scaled : ((n * 10 ^ (k + 1) : Nat) : ℚ) * 10 ^ ((0 : Int) - (1 : Nat)) =
      n * 10 ^ (k : Int) := by
    rw [zpow_natCast, show (0 : Int) - (1 : Nat) = -1 from rfl, zpow_neg_one]
    push_cast
    field_simp
    ring
  rw [Option.getD_some, Option.getD_none, value, List.length_singleton, scaled, List.append_nil]
    at decimal
  rw [positional, if_neg (by omega), Int.toNat_natCast, List.take_of_length_le (by omega),
    List.drop_of_length_le (by omega)]
  dsimp only
  rw [Nat.add_sub_cancel_left, List.append_assoc (ofNat n ++ _)]
  exact decimal

/-- Digits with a point among them. -/
theorem decimal_amid (pos : 0 < n) {k : Nat} (some : 0 < k) (most : k < (ofNat n).length) :
    Decimal (positional (ofNat n) k) (n * 10 ^ (k - (ofNat n).length : Int)) := by
  obtain ⟨c, rest, cons, leading⟩ := ofNat_cons pos
  have before : Whole ((ofNat n).take k) := by
    obtain ⟨j, rfl⟩ : ∃ j, k = j + 1 := ⟨k - 1, by omega⟩
    have digits : IsDigits ((ofNat n).take (j + 1)) :=
      fun d mem => ofNat_isDigits n d (List.mem_of_mem_take mem)
    rw [cons, List.take_succ_cons] at digits ⊢
    exact whole_of_cons digits leading
  have after : Digits ((ofNat n).drop k) := by
    refine ⟨fun d mem => ofNat_isDigits n d (List.mem_of_mem_drop mem), ?_⟩
    rw [ne_eq, List.drop_eq_nil_iff]
    omega
  have decimal := Decimal.parts before (.digits after) .absent (List.cons_ne_nil _ _)
  have places : (0 : Int) - ((ofNat n).drop k).length = k - (ofNat n).length := by
    rw [List.length_drop]
    omega
  rw [Option.getD_some, Option.getD_none, List.take_append_drop, digitsValue_ofNat, places,
    List.append_nil] at decimal
  have more : ((ofNat n).drop k).isEmpty = false := by
    rw [List.isEmpty_eq_false_iff]
    exact after.ne_nil
  rw [positional, if_neg (by omega), Int.toNat_natCast]
  dsimp only
  rw [List.length_take_of_le most.le, Nat.sub_self, more, if_neg Bool.false_ne_true,
    List.replicate_zero, List.append_nil, List.append_assoc]
  exact decimal

theorem decimal_positional (pos : 0 < n) (before : Int) :
    Decimal (positional (ofNat n) before) (n * 10 ^ (before - (ofNat n).length)) := by
  rcases Int.lt_or_le 0 before with large | small
  · obtain ⟨k, rfl⟩ := Int.eq_ofNat_of_zero_le large.le
    rcases Nat.lt_or_ge k (ofNat n).length with amid | behind
    · exact decimal_amid pos (by omega) amid
    · obtain ⟨j, rfl⟩ := Nat.exists_eq_add_of_le behind
      rw [show (((ofNat n).length + j : Nat) : Int) - (ofNat n).length = j by omega]
      exact decimal_large pos j
  · obtain ⟨k, rfl⟩ : ∃ k : Nat, before = -k := ⟨(-before).toNat, by omega⟩
    exact decimal_small n k

/-- A written exponent with its sign. -/
theorem exponent_padded (width : Nat) (x : Int) :
    Exponent ('e' :: (ofString (if x < 0 then "-" else "+") ++ padded width x.natAbs)) (some x) := by
  have digits : Digits (padded width x.natAbs) :=
    ⟨padded_isDigits width x.natAbs, padded_ne_nil width x.natAbs⟩
  by_cases negative : x < 0
  · have written := Exponent.digits (.inl rfl) .minus digits
    have value : signed true (padded width x.natAbs) = x := by
      simp only [signed, digitsValue_padded, if_true]
      omega
    rw [value] at written
    rwa [if_pos negative]
  · have written := Exponent.digits (.inl rfl) .plus digits
    have value : signed false (padded width x.natAbs) = x := by
      simp only [signed, digitsValue_padded, Bool.false_eq_true, if_false]
      omega
    rw [value] at written
    rwa [if_neg negative]

/-- Digits with a point behind the first, and an exponent. -/
theorem decimal_scientific (layout : Layout) (pos : 0 < n) (x : Int) :
    Decimal (scientific layout (ofNat n) x) (n * 10 ^ (x + 1 - (ofNat n).length)) := by
  obtain ⟨c, rest, cons, leading⟩ := ofNat_cons pos
  have digits := ofNat_isDigits n
  have value := digitsValue_ofNat n
  have exponent := exponent_padded layout.exponentWidth x
  rw [cons] at digits value ⊢
  have first : Whole [c] :=
    whole_of_cons (List.forall_mem_singleton.mpr (digits c List.mem_cons_self)) leading
  have places : x - rest.length = x + 1 - (c :: rest).length := by
    rw [List.length_cons]
    omega
  cases rest with
  | nil =>
      have decimal := Decimal.parts first .absent exponent (List.cons_ne_nil _ _)
      rw [Option.getD_none, Option.getD_some, List.append_nil, value, places] at decimal
      exact decimal
  | cons d more =>
      have after : Digits (d :: more) :=
        ⟨fun e mem => digits e (List.mem_cons_of_mem c mem), List.cons_ne_nil _ _⟩
      have decimal := Decimal.parts first (.digits after) exponent (List.cons_ne_nil _ _)
      rw [Option.getD_some, Option.getD_some, places] at decimal
      rw [← value, scientific]
      simp only [List.append_assoc]
      exact decimal

end Forms

/-! ## Numbers -/

variable {d : Dialect}

/-- A decimal that has the value of the shortest digits is JSON for the number. -/
theorem Decimal.scalar {t : Text} {negative : Bool} {m : Nat} {e : Int}
    (lead : ∀ n, within d.maxLead n = true) (proper : (Binary64.finite negative m e).Proper)
    (pos : 0 < m)
    (h : Decimal t ((Binary64.shortest m e).1 * 10 ^ (Binary64.shortest m e).2)) :
    Scalar d (sign negative ++ t) (.real (.finite negative m e)) := by
  generalize value : ((Binary64.shortest m e).1 : ℚ) * 10 ^ (Binary64.shortest m e).2 = x at h
  cases h with
  | parts whole fraction exponent pointed =>
      have scalar : Scalar d (sign negative ++ _) _ :=
        .real whole (lead _) fraction exponent pointed
      rwa [scaled, Binary64.ofDecimal_of_shortest proper pos value.symm] at scalar

/-- A finite number of the format is written as a number of JSON that is read as itself. -/
theorem scalar_write (lead : ∀ n, within d.maxLead n = true) (layout : Layout) {x : Binary64}
    (proper : x.Proper) : Scalar d (layout.write x) (.real x) := by
  match x, proper with
  | .finite negative m e, proper =>
  have signs : ofString (if negative then "-" else "") = sign negative := by
    cases negative <;> rfl
  rw [Layout.write, signs]
  by_cases zero : m = 0
  · obtain ⟨-, -, -, narrow⟩ := proper
    obtain rfl : e = -1074 := narrow.resolve_left (by omega)
    have scalar : Scalar d (sign negative ++ _) _ :=
      .real whole_zero (lead _) (.digits whole_zero.toDigits) .absent (List.cons_ne_nil _ _)
    rw [if_pos zero, zero]
    exact scalar
  · have pos := Nat.pos_of_ne_zero zero
    have some := Binary64.shortest_pos proper pos
    rw [if_neg zero]
    dsimp only
    split
    · refine Decimal.scalar lead proper pos ?_
      have decimal := decimal_positional some
        ((ofNat (Binary64.shortest m e).1).length - 1 + (Binary64.shortest m e).2 + 1 : Int)
      rwa [show ((ofNat (Binary64.shortest m e).1).length - 1 + (Binary64.shortest m e).2 + 1 : Int) -
        (ofNat (Binary64.shortest m e).1).length = (Binary64.shortest m e).2 by ring] at decimal
    · refine Decimal.scalar lead proper pos ?_
      have decimal := decimal_scientific layout some
        ((ofNat (Binary64.shortest m e).1).length - 1 + (Binary64.shortest m e).2 : Int)
      rwa [show ((ofNat (Binary64.shortest m e).1).length - 1 + (Binary64.shortest m e).2 : Int) + 1 -
        (ofNat (Binary64.shortest m e).1).length = (Binary64.shortest m e).2 by ring] at decimal

end Json

end QueryGateway
