import QueryGateway.Text.Blank
import QueryGateway.Text.Case

/-!
# Comparing words without regard to case

A word in small ASCII letters is compared with the small letters of what arrived. No text beyond ASCII
passes for such a word, although small letters are looked up for all of Unicode: the one character
beyond ASCII with a small letter in ASCII is the Kelvin sign, and `lower_eq_iff` asks of the word that
it has no `k`.
-/

namespace QueryGateway

namespace CodePoint

/-! ## Small letters of ASCII -/

theorem val_asciiLower (c : CodePoint) :
    c.asciiLower.val = if 0x41 ≤ c.val ∧ c.val ≤ 0x5A then c.val + 0x20 else c.val := by
  simp only [asciiLower, Bool.and_eq_true, decide_eq_true_eq]
  split
  · have value : (ofNat (c.val + 0x20)).val = (c.val + 0x20) % 0x110000 := rfl
    omega
  · rfl

theorem asciiLower_asciiLower (c : CodePoint) : c.asciiLower.asciiLower = c.asciiLower := by
  have value := val_asciiLower c
  have again := val_asciiLower c.asciiLower
  rw [Fin.ext_iff]
  split at value <;> split at again <;> omega

theorem isBlank_asciiLower (c : CodePoint) : c.asciiLower.isBlank = c.isBlank := by
  have value := val_asciiLower c
  rw [Bool.eq_iff_iff]
  simp only [isBlank, isSpace, Bool.or_eq_true, Bool.and_eq_true, decide_eq_true_eq]
  split at value <;> omega

theorem isAsciiLetter_asciiLower (c : CodePoint) :
    c.asciiLower.isAsciiLetter = c.isAsciiLetter := by
  have value := val_asciiLower c
  rw [Bool.eq_iff_iff]
  simp only [isAsciiLetter, Bool.or_eq_true, Bool.and_eq_true, decide_eq_true_eq]
  split at value <;> omega

/-- What is no letter is the small letter of nothing else. -/
theorem asciiLower_eq_iff {c m : CodePoint} (h : m.isAsciiLetter = false) :
    c.asciiLower = m ↔ c = m := by
  have value := val_asciiLower c
  simp only [isAsciiLetter, Bool.or_eq_false_iff, Bool.and_eq_false_iff,
    decide_eq_false_iff_not] at h
  rw [Fin.ext_iff, Fin.ext_iff]
  split at value <;> omega

theorem asciiLower_of_not_letter {c : CodePoint} (h : c.isAsciiLetter = false) :
    c.asciiLower = c :=
  (asciiLower_eq_iff h).mpr rfl

/-! ## Small letters of all scripts -/

theorem asciiLower_of_not_isAscii {c : CodePoint} (h : c.isAscii = false) : c.asciiLower = c := by
  have above : ¬ c.val < 0x80 := of_decide_eq_false h
  rw [asciiLower, if_neg]
  rw [Bool.and_eq_true, decide_eq_true_eq, decide_eq_true_eq]
  omega

theorem smallLetter_of_isAscii {c : CodePoint} (h : c.isAscii = true) :
    c.smallLetter = c.asciiLower := by
  rw [smallLetter, if_pos h]

/-- The small letters of a run all lie beyond ASCII, except that of the Kelvin sign. -/
theorem small_run_beyond_ascii :
    ∀ r ∈ Text.CaseTable.small,
      (0x80 ≤ (r.first : Int) + r.shift ∧ (r.last : Int) + r.shift < 0x110000) ∨
        (r.first = 0x212A ∧ r.last = 0x212A ∧ r.shift = -8383) := by
  decide +kernel

theorem smallLetter_of_not_isAscii {c : CodePoint} (h : c.isAscii = false) :
    c.smallLetter.isAscii = false ∨ c.smallLetter = CodePoint.ofChar 'k' := by
  rw [smallLetter, if_neg (by rw [h]; decide)]
  split
  · rename_i r found
    have within := List.find?_some found
    simp only [Bool.and_eq_true, decide_eq_true_eq] at within
    obtain ⟨⟨low, high⟩, -⟩ := within
    rcases small_run_beyond_ascii r (List.mem_of_find?_eq_some found) with ⟨above, below⟩ |
      ⟨first, last, shift⟩
    · left
      have value : (ofNat ((c.val : Int) + r.shift).toNat).val =
          ((c.val : Int) + r.shift).toNat % 0x110000 := rfl
      rw [isAscii, decide_eq_false_iff_not, value]
      omega
    · right
      have kelvin : c.val = 0x212A := by omega
      rw [kelvin, shift]
      decide
  · exact .inl h

end CodePoint

namespace Text

theorem asciiLower_asciiLower (t : Text) : t.asciiLower.asciiLower = t.asciiLower := by
  rw [asciiLower, asciiLower, List.map_map]
  exact List.map_congr_left fun c _ => c.asciiLower_asciiLower

theorem asciiLower_eq_cons {u t : Text} {c : CodePoint} (same : u.asciiLower = asciiLower (c :: t)) :
    ∃ d v, u = d :: v ∧ d.asciiLower = c.asciiLower ∧ asciiLower v = t.asciiLower :=
  List.map_eq_cons_iff.mp same

theorem asciiLower_eq_append {u s t : Text} (same : u.asciiLower = asciiLower (s ++ t)) :
    ∃ v w, u = v ++ w ∧ asciiLower v = s.asciiLower ∧ asciiLower w = t.asciiLower :=
  List.map_eq_append_iff.mp (same.trans List.map_append)

/-- A text without letters is written in one way only. -/
theorem eq_of_asciiLower {t u : Text} (h : ∀ c ∈ t, c.isAsciiLetter = false)
    (same : u.asciiLower = t.asciiLower) : u = t := by
  induction t generalizing u with
  | nil => exact List.map_eq_nil_iff.mp same
  | cons c t ih =>
      obtain ⟨first, rest⟩ := List.forall_mem_cons.mp h
      obtain ⟨d, v, rfl, head, tail⟩ := asciiLower_eq_cons same
      rw [CodePoint.asciiLower_of_not_letter first, CodePoint.asciiLower_eq_iff first] at head
      rw [head, ih rest tail]

/-- Only ASCII characters occur in the text. -/
def IsAscii (t : Text) : Prop := ∀ c ∈ t, c.isAscii = true

instance (t : Text) : Decidable t.IsAscii := List.decidableBAll _ t

theorem lowerAfter_of_isAscii {t : Text} (h : t.IsAscii) (before : Text) :
    lowerAfter before t = t.asciiLower := by
  induction t generalizing before with
  | nil => rfl
  | cons c rest ih =>
      obtain ⟨first, more⟩ := List.forall_mem_cons.mp h
      have small : c.val < 0x80 := of_decide_eq_true first
      rw [lowerAfter, if_neg (by omega), if_neg (by omega), ih more,
        CodePoint.smallLetter_of_isAscii first]
      rfl

theorem lower_of_isAscii {t : Text} (h : t.IsAscii) : t.lower = t.asciiLower :=
  lowerAfter_of_isAscii h []

theorem isAscii_of_asciiLower {t : Text} (h : t.asciiLower.IsAscii) : t.IsAscii := by
  intro c mem
  cases ascii : c.isAscii with
  | true => rfl
  | false =>
      have small := h c.asciiLower (List.mem_map_of_mem mem)
      rwa [CodePoint.asciiLower_of_not_isAscii ascii, ascii] at small

/-- The induction is on the text: whatever is written for a character beyond ASCII is not in ASCII, or
it is the letter of the Kelvin sign. -/
theorem isAscii_of_lowerAfter {t before : Text} (h : (lowerAfter before t).IsAscii)
    (plain : CodePoint.ofChar 'k' ∉ lowerAfter before t) : t.IsAscii := by
  induction t generalizing before with
  | nil => exact List.forall_mem_nil _
  | cons c rest ih =>
      rw [lowerAfter] at h plain
      obtain ⟨here, later⟩ := List.forall_mem_append.mp h
      rw [List.mem_append, not_or] at plain
      refine List.forall_mem_cons.mpr ⟨?_, ih later plain.2⟩
      by_cases dotted : c.val = 0x130
      · rw [if_pos dotted] at here
        exact absurd (here (CodePoint.ofNat 0x307) (by decide)) (by decide)
      · rw [if_neg dotted] at here plain
        by_cases sigma : c.val = 0x3A3
        · rw [if_pos sigma] at here
          have final := here _ List.mem_cons_self
          split at final
          · exact absurd final (by decide)
          · exact absurd final (by decide)
        · rw [if_neg sigma, List.mem_singleton] at plain
          rw [if_neg sigma] at here
          have small := here c.smallLetter (List.mem_singleton.mpr rfl)
          cases ascii : c.isAscii with
          | true => rfl
          | false =>
              rcases CodePoint.smallLetter_of_not_isAscii ascii with beyond | kelvin
              · rw [beyond] at small
                cases small
              · exact absurd kelvin.symm plain.1

/-- A text passes for a word in small ASCII letters without a `k` if and only if it does so letter by
letter in ASCII. -/
theorem lower_eq_iff {t w : Text} (ascii : w.IsAscii) (plain : CodePoint.ofChar 'k' ∉ w) :
    t.lower = w ↔ t.asciiLower = w := by
  constructor
  · rintro rfl
    exact (lower_of_isAscii (isAscii_of_lowerAfter ascii plain)).symm
  · rintro rfl
    exact lower_of_isAscii (isAscii_of_asciiLower ascii)

end Text

end QueryGateway
