import QueryGateway.Text.Quoted

/-!
# Which texts hold no surrogate

UTF-8 has a place for Unicode text only, so it matters where surrogates can come from. None comes
from a literal or a number, and none arises where texts are put together.
-/

namespace QueryGateway

namespace CodePoint

theorem isSurrogate_ofChar (c : Char) : (ofChar c).isSurrogate = false := by
  have valid := c.valid
  unfold UInt32.isValidChar Nat.isValidChar at valid
  have value : (ofChar c).val = c.val.toNat := rfl
  rw [isSurrogate, value]
  simp only [Bool.and_eq_false_iff, decide_eq_false_iff_not]
  omega

theorem isSurrogate_ofNat {n : Nat} (h : n < 0xD800 ∨ 0xDFFF < n ∧ n < 0x110000) :
    (ofNat n).isSurrogate = false := by
  have value : (ofNat n).val = n % 0x110000 := rfl
  rw [isSurrogate, value]
  simp only [Bool.and_eq_false_iff, decide_eq_false_iff_not]
  omega

theorem isSurrogate_of_isPrintableAscii {c : CodePoint} (h : c.isPrintableAscii = true) :
    c.isSurrogate = false := by
  simp only [isPrintableAscii, Bool.and_eq_true, decide_eq_true_eq] at h
  simp only [isSurrogate, Bool.and_eq_false_iff, decide_eq_false_iff_not]
  omega

end CodePoint

namespace Text

/-! ## Putting texts together -/

theorem isScalar_nil : IsScalar [] := fun _ h => nomatch h

theorem IsScalar.cons {c : CodePoint} {t : Text} (hc : c.isSurrogate = false) (ht : t.IsScalar) :
    IsScalar (c :: t) := by
  intro e he
  rcases List.mem_cons.mp he with rfl | he
  · exact hc
  · exact ht e he

theorem IsScalar.append {s t : Text} (hs : s.IsScalar) (ht : t.IsScalar) : (s ++ t).IsScalar := by
  intro c hc
  rcases List.mem_append.mp hc with hc | hc
  · exact hs c hc
  · exact ht c hc

theorem isScalar_append {s t : Text} : (s ++ t).IsScalar ↔ s.IsScalar ∧ t.IsScalar :=
  ⟨fun h => ⟨fun c hc => h c (List.mem_append_left _ hc),
    fun c hc => h c (List.mem_append_right _ hc)⟩, fun h => h.1.append h.2⟩

theorem IsScalar.flatMap {f : CodePoint → Text} {t : Text} (h : ∀ c ∈ t, (f c).IsScalar) :
    IsScalar (t.flatMap f) := by
  intro c hc
  obtain ⟨e, he, hc⟩ := List.mem_flatMap.mp hc
  exact h e he c hc

theorem isScalar_replicate {c : CodePoint} (h : c.isSurrogate = false) (n : Nat) :
    IsScalar (List.replicate n c) := by
  intro e he
  rw [List.eq_of_mem_replicate he]
  exact h

/-- What holds of all characters of a separator and of some texts holds of all characters of the
texts joined. -/
theorem forall_mem_join {p : CodePoint → Prop} {sep : Text} (hsep : ∀ c ∈ sep, p c) :
    ∀ {ts : List Text}, (∀ t ∈ ts, ∀ c ∈ t, p c) → ∀ c ∈ join sep ts, p c
  | [], _ => List.forall_mem_nil _
  | [t], h => h t List.mem_cons_self
  | t :: _ :: _, h =>
    List.forall_mem_append.mpr ⟨List.forall_mem_append.mpr ⟨h t List.mem_cons_self, hsep⟩,
      forall_mem_join hsep fun v mem => h v (List.mem_cons_of_mem _ mem)⟩

theorem IsScalar.join {sep : Text} (hsep : sep.IsScalar) {ts : List Text}
    (h : ∀ t ∈ ts, t.IsScalar) : (join sep ts).IsScalar :=
  forall_mem_join hsep h

/-! ## Literals, numbers and escapes -/

theorem isScalar_ofString (s : String) : (ofString s).IsScalar := by
  intro c hc
  obtain ⟨x, -, rfl⟩ := List.mem_map.mp hc
  exact CodePoint.isSurrogate_ofChar x

theorem isScalar_literals (ss : List String) : ∀ t ∈ ss.map ofString, t.IsScalar := by
  intro t mem
  obtain ⟨s, -, rfl⟩ := List.mem_map.mp mem
  exact isScalar_ofString s

theorem isScalar_digitsOnto (n : Nat) {rest : Text} (h : rest.IsScalar) :
    (digitsOnto n rest).IsScalar := by
  fun_induction digitsOnto n rest with
  | case1 n rest small => exact h.cons (CodePoint.isSurrogate_ofNat (.inl (by omega)))
  | case2 n rest large ih =>
      exact ih (h.cons (CodePoint.isSurrogate_ofNat (.inl (by omega))))

theorem isScalar_ofNat (n : Nat) : (ofNat n).IsScalar := isScalar_digitsOnto n isScalar_nil

theorem isScalar_ofInt (n : Int) : (ofInt n).IsScalar := by
  cases n with
  | ofNat n => exact isScalar_ofNat n
  | negSucc n => exact (isScalar_ofNat _).cons (CodePoint.isSurrogate_ofChar _)

end Text

end QueryGateway
