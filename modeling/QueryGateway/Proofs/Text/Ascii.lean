import QueryGateway.Log.Instant
import QueryGateway.Proofs.Text.Decimal
import QueryGateway.Proofs.Text.Scalar

/-!
# Printable ASCII

A text of printable ASCII characters survives every transport: it has no control characters, no
characters beyond ASCII, and so no surrogates (`IsPrintable.isScalar`). Digits are such texts, and
what is put together from such texts is one, a point in time for example.
-/

namespace QueryGateway.Text

/-- Only printable ASCII characters occur in the text. -/
def IsPrintable (t : Text) : Prop := ∀ c ∈ t, c.isPrintableAscii = true

theorem IsPrintable.isScalar {t : Text} (h : t.IsPrintable) : t.IsScalar :=
  fun c mem => CodePoint.isSurrogate_of_isPrintableAscii (h c mem)

/-! ## Putting texts together -/

theorem isPrintable_nil : IsPrintable [] := List.forall_mem_nil _

theorem isPrintable_singleton {c : CodePoint} (h : c.isPrintableAscii = true) : IsPrintable [c] :=
  List.forall_mem_singleton.mpr h

theorem IsPrintable.append {s t : Text} (hs : s.IsPrintable) (ht : t.IsPrintable) :
    (s ++ t).IsPrintable :=
  List.forall_mem_append.mpr ⟨hs, ht⟩

theorem IsPrintable.sublist {s t : Text} (h : s.Sublist t) (ht : t.IsPrintable) : s.IsPrintable :=
  fun c mem => ht c (h.subset mem)

theorem IsPrintable.flatMap {f : CodePoint → Text} (h : ∀ c, (f c).IsPrintable) (t : Text) :
    IsPrintable (t.flatMap f) :=
  List.forall_mem_flatMap.mpr fun c _ => h c

theorem IsPrintable.join {sep : Text} (hsep : sep.IsPrintable) {ts : List Text}
    (h : ∀ t ∈ ts, t.IsPrintable) : (join sep ts).IsPrintable :=
  forall_mem_join hsep h

/-! ## Literals and digits -/

/-- A literal is looked at as it is written. -/
theorem isPrintable_ofString {s : String}
    (h : (s.toList.all fun x => (CodePoint.ofChar x).isPrintableAscii) = true) :
    (ofString s).IsPrintable :=
  List.forall_mem_map.mpr (List.all_eq_true.mp h)

theorem isPrintable_of_digits {ds : Text} (h : IsDigits ds) : ds.IsPrintable := by
  intro c mem
  have range := isAsciiDigit_iff.mp (h c mem)
  rw [CodePoint.isPrintableAscii, Bool.and_eq_true, decide_eq_true_eq, decide_eq_true_eq]
  omega

theorem isPrintable_ofNat (n : Nat) : (ofNat n).IsPrintable :=
  isPrintable_of_digits (ofNat_isDigits n)

theorem isPrintable_zeros (n : Nat) :
    IsPrintable (List.replicate n (CodePoint.ofChar '0')) := by
  intro c mem
  rw [List.eq_of_mem_replicate mem]
  decide

theorem isPrintable_padded (width n : Nat) : (padded width n).IsPrintable :=
  (isPrintable_zeros _).append (isPrintable_ofNat n)

theorem isPrintable_hex (width n : Nat) : (hex width n).IsPrintable := by
  have digit : ∀ k : Fin 16, (hexDigit k.val).isPrintableAscii = true := by decide
  induction width generalizing n with
  | zero => exact isPrintable_nil
  | succ width ih =>
      exact (ih _).append (isPrintable_singleton (digit ⟨n % 16, Nat.mod_lt n (by decide)⟩))

/-- A point in time is written in printable ASCII. -/
theorem isPrintable_iso (i : Instant) : i.iso.IsPrintable := by
  have behind (s : String)
      (h : (s.toList.all fun x => (CodePoint.ofChar x).isPrintableAscii) = true) {t : Text}
      (printable : t.IsPrintable) (width n : Nat) : (t ++ s ++ padded width n).IsPrintable :=
    (printable.append (isPrintable_ofString h)).append (isPrintable_padded width n)
  have date := behind "-" rfl (behind "-" rfl (isPrintable_padded 4 i.year) 2 i.month) 2 i.day
  have time := behind ":" rfl (behind ":" rfl (behind "T" rfl date 2 i.hour) 2 i.minute) 2 i.second
  refine (time.append ?_).append (isPrintable_ofString rfl)
  split
  · exact isPrintable_nil
  · exact (isPrintable_ofString rfl).append (isPrintable_padded 6 i.microsecond)

end QueryGateway.Text
