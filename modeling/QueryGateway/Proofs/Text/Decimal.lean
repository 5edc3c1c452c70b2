import Mathlib.Algebra.Group.Nat.Defs
import QueryGateway.Proofs.Text.Words

/-!
# Decimal texts

A number in decimal is a run of digits with the number as its value, and no run of digits is better:
it begins with zero only if it is zero (`ofNat_leading`), every run that does not is the run of its
value (`ofNat_digitsValue`), and no other run with the same value is shorter
(`length_ofNat_digitsValue`). This matters where a number is read back that was written, since
readers may refuse leading zeros, and runs beyond a certain length.

The digits of a number are those of its tenth part with the last digit behind them; this is the
induction on which everything else rests (`ofNat_induction`).
-/

namespace QueryGateway.Text

/-! ## Digits -/

/-- The character of a digit. -/
def decimal (n : Nat) : CodePoint := CodePoint.ofNat (0x30 + n)

theorem decimal_val {n : Nat} (h : n < 10) : (decimal n).val = 0x30 + n :=
  Nat.mod_eq_of_lt (by omega)

theorem isAsciiDigit_iff {c : CodePoint} : c.isAsciiDigit = true ↔ 0x30 ≤ c.val ∧ c.val ≤ 0x39 := by
  simp only [CodePoint.isAsciiDigit, Bool.and_eq_true, decide_eq_true_eq]

theorem isAsciiDigit_decimal {n : Nat} (h : n < 10) : (decimal n).isAsciiDigit = true := by
  rw [isAsciiDigit_iff, decimal_val h]
  omega

/-- The text consists of ASCII digits. -/
def IsDigits (t : Text) : Prop := ∀ c ∈ t, c.isAsciiDigit = true

/-- Digits are taken off the front of a text up to the first character that is none. -/
theorem span_digits {ds t : Text} (digits : IsDigits ds)
    (stop : ∀ c ∈ t.head?, c.isAsciiDigit = false) :
    (ds ++ t).takeWhile CodePoint.isAsciiDigit = ds ∧
      (ds ++ t).dropWhile CodePoint.isAsciiDigit = t :=
  span_run digits stop

/-- Every text begins with some digits, perhaps none, and goes on with something else. -/
theorem exists_span_digits (t : Text) :
    ∃ ds u, IsDigits ds ∧ (∀ c ∈ u.head?, c.isAsciiDigit = false) ∧ t = ds ++ u := by
  induction t with
  | nil =>
      refine ⟨[], [], List.forall_mem_nil _, fun c first => ?_, rfl⟩
      cases first
  | cons c t ih =>
      cases digit : c.isAsciiDigit with
      | true =>
          obtain ⟨ds, u, digits, stop, rfl⟩ := ih
          exact ⟨c :: ds, u, List.forall_mem_cons.mpr ⟨digit, digits⟩, stop, rfl⟩
      | false =>
          refine ⟨[], c :: t, List.forall_mem_nil _, ?_, rfl⟩
          rintro d ⟨⟩
          exact digit

/-! ## Numbers in decimal -/

theorem digitsOnto_append (n : Nat) (rest more : Text) :
    digitsOnto n (rest ++ more) = digitsOnto n rest ++ more := by
  fun_induction digitsOnto n rest with
  | case1 n rest small =>
      rw [digitsOnto, dif_pos small]
      rfl
  | case2 n rest large ih =>
      rw [digitsOnto, dif_neg large]
      exact ih

theorem ofNat_small {n : Nat} (h : n < 10) : ofNat n = [decimal n] := by
  rw [ofNat, digitsOnto, dif_pos h, decimal]

theorem ofNat_large {n : Nat} (h : 10 ≤ n) : ofNat n = ofNat (n / 10) ++ [decimal (n % 10)] := by
  rw [ofNat, digitsOnto, dif_neg (Nat.not_lt.mpr h)]
  exact digitsOnto_append (n / 10) [] [decimal (n % 10)]

/-- What holds of single digits and is kept when a digit is put behind holds of all numbers. -/
theorem ofNat_induction {motive : Nat → Text → Prop}
    (small : ∀ n, n < 10 → motive n [decimal n])
    (large : ∀ n, 10 ≤ n → motive (n / 10) (ofNat (n / 10)) →
      motive n (ofNat (n / 10) ++ [decimal (n % 10)])) (n : Nat) : motive n (ofNat n) := by
  induction n using Nat.strongRecOn with
  | ind n ih =>
      by_cases h : n < 10
      · rw [ofNat_small h]
        exact small n h
      · rw [ofNat_large (by omega)]
        exact large n (by omega) (ih (n / 10) (by omega))

theorem ofNat_isDigits (n : Nat) : IsDigits (ofNat n) := by
  induction n using ofNat_induction with
  | small n h =>
      intro c mem
      rw [List.mem_singleton.mp mem]
      exact isAsciiDigit_decimal h
  | large n h ih =>
      intro c mem
      rcases List.mem_append.mp mem with mem | mem
      · exact ih c mem
      · rw [List.mem_singleton.mp mem]
        exact isAsciiDigit_decimal (Nat.mod_lt n (by decide))

theorem ofNat_ne_nil (n : Nat) : ofNat n ≠ [] := by
  induction n using ofNat_induction with
  | small n h => exact List.cons_ne_nil _ _
  | large n h ih => exact List.append_ne_nil_of_left_ne_nil ih _

theorem digitsValue_concat (ds : Text) (c : CodePoint) :
    digitsValue (ds ++ [c]) = 10 * digitsValue ds + (c.val - 0x30) := by
  rw [digitsValue, List.foldl_append]
  rfl

theorem digitsValue_ofNat (n : Nat) : digitsValue (ofNat n) = n := by
  induction n using ofNat_induction with
  | small n h =>
      show 10 * 0 + ((decimal n).val - 0x30) = n
      rw [decimal_val h]
      omega
  | large n h ih =>
      rw [digitsValue_concat, ih, decimal_val (Nat.mod_lt n (by decide))]
      omega

theorem ofNat_leading {n : Nat} {ds : Text} (h : ofNat n = CodePoint.ofChar '0' :: ds) :
    ds = [] := by
  induction n using ofNat_induction generalizing ds with
  | small n small => exact (List.cons.inj h).2.symm
  | large n large ih =>
      cases front : ofNat (n / 10) with
      | nil => exact absurd front (ofNat_ne_nil _)
      | cons c more =>
          rw [front, List.cons_append] at h
          obtain ⟨zero, -⟩ := List.cons.inj h
          rw [zero] at front
          -- a leading zero in front of other digits would make the number itself small
          cases ih front
          have tenth : n / 10 = 0 := by
            rw [← digitsValue_ofNat (n / 10), front]
            rfl
          omega

theorem decimal_of_isAsciiDigit {c : CodePoint} (h : c.isAsciiDigit = true) :
    decimal (c.val - 0x30) = c := by
  have range := isAsciiDigit_iff.mp h
  refine Fin.ext ?_
  rw [decimal_val (by omega)]
  omega

/-- A run of digits without a leading zero is the number that it writes. -/
theorem ofNat_digitsValue {ds : Text} (h : IsDigits ds) (some : ds ≠ [])
    (leading : ds.head? ≠ CodePoint.ofChar '0') : ofNat (digitsValue ds) = ds := by
  induction n : ds.length generalizing ds with
  | zero => exact absurd (List.length_eq_zero_iff.mp n) some
  | succ n ih =>
      obtain ⟨front, c, rfl⟩ : ∃ front c, ds = front ++ [c] :=
        ⟨ds.dropLast, ds.getLast some, (List.dropLast_concat_getLast some).symm⟩
      have last := h c (List.mem_append_right front List.mem_cons_self)
      have range := isAsciiDigit_iff.mp last
      rw [digitsValue_concat]
      cases front with
      | nil =>
          show ofNat (10 * 0 + (c.val - 0x30)) = [c]
          rw [ofNat_small (by omega), Nat.mul_zero, Nat.zero_add, decimal_of_isAsciiDigit last]
      | cons first more =>
          have before : ofNat (digitsValue (first :: more)) = first :: more :=
            ih (fun e mem => h e (List.mem_append_left [c] mem)) (List.cons_ne_nil _ _) leading
              (by simpa using n)
          have positive : digitsValue (first :: more) ≠ 0 := by
            intro zero
            rw [zero, ofNat_small (by decide)] at before
            have same : first = CodePoint.ofChar '0' := (List.cons.inj before).1.symm
            exact leading (congrArg Option.some same)
          have tenth : (10 * digitsValue (first :: more) + (c.val - 0x30)) / 10 =
              digitsValue (first :: more) := by
            omega
          have unit : (10 * digitsValue (first :: more) + (c.val - 0x30)) % 10 = c.val - 0x30 := by
            omega
          rw [ofNat_large (by omega), tenth, unit, before, decimal_of_isAsciiDigit last]

/-! ## Lengths -/

theorem length_ofNat_le {n k : Nat} (positive : 0 < k) (h : n < 10 ^ k) :
    (ofNat n).length ≤ k := by
  induction n using ofNat_induction generalizing k with
  | small n small => exact positive
  | large n large ih =>
      obtain ⟨k, rfl⟩ : ∃ j, k = j + 1 := ⟨k - 1, by omega⟩
      rw [Nat.pow_succ] at h
      have several : 0 < k := by
        rcases Nat.eq_zero_or_pos k with rfl | several
        · omega
        · exact several
      have tenth := ih several (Nat.div_lt_of_lt_mul (by omega))
      rw [List.length_append, List.length_singleton]
      omega

theorem digitsValue_lt {ds : Text} (h : IsDigits ds) : digitsValue ds < 10 ^ ds.length := by
  suffices all : ∀ n, ds.foldl (fun n c => 10 * n + (c.val - 0x30)) n < (n + 1) * 10 ^ ds.length by
    exact Nat.lt_of_lt_of_eq (all 0) (Nat.one_mul _)
  induction ds with
  | nil =>
      intro n
      show n < (n + 1) * 1
      omega
  | cons c rest ih =>
      intro n
      have digit := isAsciiDigit_iff.mp (h c List.mem_cons_self)
      have later := ih (fun e mem => h e (List.mem_cons_of_mem _ mem)) (10 * n + (c.val - 0x30))
      have carry : (10 * n + (c.val - 0x30) + 1) * 10 ^ rest.length ≤
          ((n + 1) * 10) * 10 ^ rest.length := Nat.mul_le_mul_right _ (by omega)
      rw [List.foldl_cons, List.length_cons, Nat.pow_succ, Nat.mul_comm (10 ^ _), ← Nat.mul_assoc]
      exact Nat.lt_of_lt_of_le later carry

/-- A run of digits is at least as long as its value in decimal. -/
theorem length_ofNat_digitsValue {ds : Text} (h : IsDigits ds) (some : ds ≠ []) :
    (ofNat (digitsValue ds)).length ≤ ds.length :=
  length_ofNat_le (List.length_pos_iff.mpr some) (digitsValue_lt h)

/-! ## Filled up to a width -/

theorem digitsValue_zeros (k : Nat) (ds : Text) :
    digitsValue (List.replicate k (CodePoint.ofChar '0') ++ ds) = digitsValue ds := by
  induction k with
  | zero => rfl
  | succ k ih => exact ih

theorem digitsValue_padded (width n : Nat) : digitsValue (padded width n) = n := by
  rw [padded, digitsValue_zeros, digitsValue_ofNat]

theorem padded_isDigits (width n : Nat) : IsDigits (padded width n) := by
  refine List.forall_mem_append.mpr ⟨?_, ofNat_isDigits n⟩
  intro c mem
  rw [List.eq_of_mem_replicate mem]
  decide

theorem padded_ne_nil (width n : Nat) : padded width n ≠ [] :=
  List.append_ne_nil_of_right_ne_nil _ (ofNat_ne_nil n)

end QueryGateway.Text
