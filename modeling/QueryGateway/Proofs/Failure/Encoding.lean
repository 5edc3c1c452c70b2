import QueryGateway.Failure.Encoding
import QueryGateway.Proofs.Text.Scalar

/-!
# Texts that can be encoded

A text without a run that does not fit can be encoded, and UTF-8 has a place for Unicode text
(`encodeStrictly_eq_ok_iff`).
-/

namespace QueryGateway

theorem Text.unfitRun?_eq_none {fits : CodePoint → Bool} {position : Nat} {t : Text} :
    t.unfitRun? fits position = none ↔ ∀ c ∈ t, fits c = true := by
  induction t generalizing position with
  | nil => simp only [unfitRun?, List.not_mem_nil, false_imp_iff, implies_true]
  | cons c rest ih =>
      rw [unfitRun?, List.forall_mem_cons]
      cases fits c with
      | true => simp only [if_true, ih, true_and]
      | false => simp only [Bool.false_eq_true, if_false, reduceCtorEq, false_and]

namespace Utf8

theorem encodeStrictly_eq_ok_iff {t : Text} {bytes : Bytes} :
    encodeStrictly t = .ok bytes ↔ t.IsScalar ∧ encode t = bytes := by
  have fit : t.unfitRun? (fun c => !c.isSurrogate) 0 = none ↔ t.IsScalar := by
    simp only [Text.unfitRun?_eq_none, Bool.not_eq_true', Text.IsScalar]
  rw [← fit, encodeStrictly]
  cases t.unfitRun? (fun c => !c.isSurrogate) 0 with
  | none => simp only [Except.ok.injEq, true_and]
  | some run => simp only [reduceCtorEq, false_and]

theorem encodeStrictly_of_isScalar {t : Text} (h : t.IsScalar) :
    encodeStrictly t = .ok (encode t) :=
  encodeStrictly_eq_ok_iff.mpr ⟨h, rfl⟩

theorem encodeStrictly_of_not_isScalar {t : Text} (h : ¬ t.IsScalar) :
    ∃ position c length, encodeStrictly t =
      .error (.unencodable "utf-8" "surrogates not allowed" position c length) := by
  cases encoded : encodeStrictly t with
  | ok bytes => exact absurd (encodeStrictly_eq_ok_iff.mp encoded).1 h
  | error f =>
      unfold encodeStrictly at encoded
      split at encoded
      · cases encoded
        exact ⟨_, _, _, rfl⟩
      · cases encoded

end Utf8

end QueryGateway
