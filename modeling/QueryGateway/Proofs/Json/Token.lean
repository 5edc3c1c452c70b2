import QueryGateway.Proofs.Json.Grammar
import QueryGateway.Proofs.Text.Words

/-!
# Texts, numbers and names are read by the grammar

Each scanner of the reader against the rule it implements, in both directions. Whatever a scanner
takes off the front of a text is built by its rule, with the value that the scanner gives. And
whatever the rule builds is taken off, with what stands behind it left alone.

The second direction needs a word on what stands behind, since a scanner is not told where to stop:
with a digit behind it a number would be read as another one. Behind a value stands nothing, a blank
or a mark (`Closed`). A text needs no such care, its closing quote ends it. The one look ahead is
that for the second half of a surrogate pair, and it never reaches beyond the closing quote, since
no escape holds one (`UnitEscape.prefix_inside`).
-/

namespace QueryGateway.Json

open Text

variable {d : Dialect}

/-! ## Blanks -/

theorem blank_nil : Blank [] := fun _ mem => nomatch mem

theorem Blank.append {a b : Text} (ha : Blank a) (hb : Blank b) : Blank (a ++ b) := by
  intro c mem
  rcases List.mem_append.mp mem with mem | mem
  · exact ha c mem
  · exact hb c mem

theorem blank_front (t : Text) : ∃ a, Blank a ∧ t = a ++ skipBlanks t :=
  ⟨t.takeWhile isBlank, fun c mem => List.all_eq_true.mp List.all_takeWhile c mem,
    List.takeWhile_append_dropWhile.symm⟩

theorem skipBlanks_append {a : Text} (h : Blank a) (t : Text) :
    skipBlanks (a ++ t) = skipBlanks t :=
  List.dropWhile_append_of_pos h

theorem skipBlanks_cons {c : CodePoint} (h : isBlank c = false) (t : Text) :
    skipBlanks (c :: t) = c :: t :=
  List.dropWhile_cons_of_neg (by rw [h]; exact Bool.false_ne_true)

theorem blank_iff_skipBlanks {t : Text} : Blank t ↔ skipBlanks t = [] := by
  constructor
  · intro h
    have none := skipBlanks_append h []
    rwa [List.append_nil] at none
  · intro none
    obtain ⟨a, blank, whole⟩ := blank_front t
    rw [none, List.append_nil] at whole
    exact whole ▸ blank

/-! ## Escapes -/

theorem hexValue?_lt {c : CodePoint} {n : Nat} (h : hexValue? c = some n) : n < 16 := by
  unfold hexValue? at h
  simp only [Bool.and_eq_true, decide_eq_true_eq] at h
  repeat' split at h
  all_goals cases h
  all_goals omega

theorem UnitEscape.lt {u : Text} {n : Nat} (h : UnitEscape u n) : n < 0x10000 := by
  cases h with
  | digits ha hb hc hd =>
      have := hexValue?_lt ha
      have := hexValue?_lt hb
      have := hexValue?_lt hc
      have := hexValue?_lt hd
      omega

theorem unit?_iff {t rest : Text} {n : Nat} :
    unit? t = some (n, rest) ↔ ∃ u, UnitEscape ('\\' :: 'u' :: u) n ∧ t = u ++ rest := by
  constructor
  · intro h
    unfold unit? at h
    split at h
    · rename_i a b c e more
      obtain ⟨i, ha, h⟩ := Option.bind_eq_some_iff.mp h
      obtain ⟨j, hb, h⟩ := Option.bind_eq_some_iff.mp h
      obtain ⟨k, hc, h⟩ := Option.bind_eq_some_iff.mp h
      obtain ⟨l, he, h⟩ := Option.bind_eq_some_iff.mp h
      cases h
      exact ⟨[a, b, c, e], .digits ha hb hc he, rfl⟩
    · cases h
  · rintro ⟨u, h, rfl⟩
    cases h with
    | digits ha hb hc hd =>
        simp only [List.cons_append, List.nil_append, unit?, ha, hb, hc, hd, Option.bind_eq_bind,
          Option.bind_some]

theorem lowUnit?_iff {t rest : Text} {n : Nat} :
    lowUnit? t = some (n, rest) ↔ ∃ u, UnitEscape u n ∧ IsLow n ∧ t = u ++ rest := by
  constructor
  · intro h
    unfold lowUnit? at h
    split at h
    · rename_i b u more
      split at h
      · rename_i marks
        obtain ⟨found, low⟩ := Option.filter_eq_some_iff.mp h
        obtain ⟨w, escape, rfl⟩ := unit?_iff.mp found
        obtain ⟨rfl, rfl⟩ := marks
        have low : IsLow n := by
          simpa only [IsLow, Bool.and_eq_true, decide_eq_true_eq] using low
        exact ⟨_, escape, low, rfl⟩
      · cases h
    · cases h
  · rintro ⟨u, escape, low, rfl⟩
    have unit {w : Text} (h : UnitEscape ('\\' :: 'u' :: w) n) :
        unit? (w ++ rest) = some (n, rest) :=
      unit?_iff.mpr ⟨w, h, rfl⟩
    cases escape with
    | @digits a b c e _ _ _ _ ha hb hc he =>
        have read := unit (.digits ha hb hc he)
        rw [List.cons_append, List.cons_append, lowUnit?, if_pos ⟨rfl, rfl⟩, read]
        exact Option.filter_some_pos
          (by simpa only [IsLow, Bool.and_eq_true, decide_eq_true_eq] using low)

theorem letterEscape?_iff {e c : CodePoint} :
    letterEscape? e = some c ↔ (e, c) ∈ letterEscapes := by
  constructor
  · intro h
    unfold letterEscape? at h
    repeat' split at h
    · rename_i same
      cases h
      rcases same with rfl | rfl | rfl <;> decide
    all_goals
      rename_i same
      cases h
    all_goals
      rw [same]
      decide
  · intro h
    have all : letterEscapes.all fun p => decide (letterEscape? p.1 = some p.2) := by decide
    exact of_decide_eq_true (List.all_eq_true.mp all (e, c) h)

theorem letterEscapes_ascii {e c : CodePoint} (h : (e, c) ∈ letterEscapes) : c.val < 0x80 := by
  have all : letterEscapes.all fun p => decide (p.2.val < 0x80) := by decide
  exact of_decide_eq_true (List.all_eq_true.mp all (e, c) h)

theorem letterEscapes_ne_u {c : CodePoint} : (CodePoint.ofChar 'u', c) ∉ letterEscapes := by
  intro h
  have none : letterEscape? 'u' = none := rfl
  exact nomatch none.symm.trans (letterEscape?_iff.mpr h)

/-! ## What stands between quotes -/

theorem UnitEscape.quote_not_mem {u : Text} {n : Nat} (h : UnitEscape u n) :
    CodePoint.ofChar '"' ∉ u := by
  have none : hexValue? (CodePoint.ofChar '"') = none := rfl
  have other {c : CodePoint} {k : Nat} (hc : hexValue? c = some k) : CodePoint.ofChar '"' ≠ c := by
    rintro rfl
    exact nomatch none.symm.trans hc
  cases h with
  | digits ha hb hc hd =>
      simp only [List.mem_cons, List.not_mem_nil, or_false, not_or]
      exact ⟨by decide, by decide, other ha, other hb, other hc, other hd⟩

/-- An escape that begins before the closing quote ends before it. -/
theorem UnitEscape.prefix_inside {u w rest : Text} {n : Nat} (h : UnitEscape u n)
    (front : u <+: w ++ CodePoint.ofChar '"' :: rest) : u <+: w := by
  obtain ⟨more, whole⟩ := front
  rcases List.append_eq_append_iff.mp whole with ⟨inside, rfl, -⟩ | ⟨beyond, rfl, quoted⟩
  · exact List.prefix_append u inside
  · cases beyond with
    | nil => exact ⟨[], by rw [List.append_nil, List.append_nil]⟩
    | cons c beyond =>
        obtain ⟨rfl, -⟩ := List.cons.inj quoted
        exact absurd (List.mem_append_right w List.mem_cons_self) h.quote_not_mem

/-- What an escape by number stands for, and how far it goes: one unit, or two. -/
theorem numberedEscape?_some {t rest : Text} {c : CodePoint}
    (h : numberedEscape? d t = some (c, rest)) :
    ∃ u n, UnitEscape ('\\' :: 'u' :: u) n ∧
      (c = CodePoint.ofNat n ∧ t = u ++ rest ∧ (¬ IsHigh n ∧ ¬ IsLow n ∨
        d.loneSurrogates = true ∧ (IsLow n ∨ IsHigh n ∧ lowUnit? rest = none)) ∨
      ∃ v m, UnitEscape v m ∧ IsHigh n ∧ IsLow m ∧ c = pairPoint n m ∧ t = u ++ (v ++ rest)) := by
  obtain ⟨⟨n, more⟩, unit, read⟩ := Option.bind_eq_some_iff.mp h
  obtain ⟨u, escape, rfl⟩ := unit?_iff.mp unit
  refine ⟨u, n, escape, ?_⟩
  change (if IsHigh n then _ else if IsLow n then _ else _) = _ at read
  split at read
  · rename_i high
    split at read
    · rename_i m behind low
      obtain ⟨v, second, isLow, rfl⟩ := lowUnit?_iff.mp low
      obtain ⟨rfl, rfl⟩ := Prod.mk.inj (Option.some.inj read)
      exact .inr ⟨v, m, second, high, isLow, rfl, rfl⟩
    · rename_i alone
      split at read
      · rename_i lone
        obtain ⟨rfl, rfl⟩ := Prod.mk.inj (Option.some.inj read)
        exact .inl ⟨rfl, rfl, .inr ⟨lone, .inr ⟨high, alone⟩⟩⟩
      · cases read
  · rename_i notHigh
    split at read
    · rename_i low
      split at read
      · rename_i lone
        obtain ⟨rfl, rfl⟩ := Prod.mk.inj (Option.some.inj read)
        exact .inl ⟨rfl, rfl, .inr ⟨lone, .inl low⟩⟩
      · cases read
    · rename_i notLow
      obtain ⟨rfl, rfl⟩ := Prod.mk.inj (Option.some.inj read)
      exact .inl ⟨rfl, rfl, .inl ⟨notHigh, notLow⟩⟩

theorem readText?_sound {fuel : Nat} {t u rest : Text} (h : readText? d fuel t = some (u, rest)) :
    ∃ w, t = w ++ CodePoint.ofChar '"' :: rest ∧ Chars d w u := by
  fun_induction readText? d fuel t generalizing u rest with
  | case1 | case2 | case4 | case7 => cases h
  | case3 fuel more =>
      cases h
      exact ⟨[], rfl, .nil⟩
  | case5 fuel more _ ih =>
      obtain ⟨⟨c, behind⟩, escaped, h⟩ := Option.bind_eq_some_iff.mp h
      obtain ⟨⟨later, _⟩, read, h⟩ := Option.bind_eq_some_iff.mp h
      cases h
      obtain ⟨w, rfl, chars⟩ := ih behind read
      obtain ⟨x, n, escape, one | ⟨v, m, second, high, low, rfl, rfl⟩⟩ :=
        numberedEscape?_some escaped
      · obtain ⟨rfl, rfl, notHalf | ⟨lone, half⟩⟩ := one
        · exact ⟨_ :: _ :: x ++ w, by simp only [List.cons_append, List.append_assoc],
            .unit escape notHalf.1 notHalf.2 chars⟩
        · refine ⟨_ :: _ :: x ++ w, by simp only [List.cons_append, List.append_assoc],
            .half lone escape (half.imp_right fun h => ⟨h.1, fun second front low => ?_⟩) chars⟩
          obtain ⟨more, rfl⟩ := front
          have found := lowUnit?_iff.mpr
            ⟨_, second, low, List.append_assoc _ more (CodePoint.ofChar '"' :: rest)⟩
          exact nomatch h.2.symm.trans found
      · exact ⟨_ :: _ :: x ++ (v ++ w), by simp only [List.cons_append, List.append_assoc],
          .pair escape second high low chars⟩
  | case6 fuel e more _ _ ih =>
      obtain ⟨c, escaped, h⟩ := Option.bind_eq_some_iff.mp h
      obtain ⟨⟨later, _⟩, read, h⟩ := Option.bind_eq_some_iff.mp h
      cases h
      obtain ⟨w, rfl, chars⟩ := ih read
      exact ⟨_ :: e :: w, rfl, .letter (letterEscape?_iff.mp escaped) chars⟩
  | case8 fuel c more notQuote notEscape notControl ih =>
      obtain ⟨⟨later, _⟩, read, h⟩ := Option.bind_eq_some_iff.mp h
      cases h
      obtain ⟨w, rfl, chars⟩ := ih read
      exact ⟨c :: w, rfl, .plain notQuote notEscape (Nat.not_lt.mp notControl) chars⟩

theorem UnitEscape.marked {u : Text} {n : Nat} (h : UnitEscape u n) :
    ∃ x, u = CodePoint.ofChar '\\' :: CodePoint.ofChar 'u' :: x := by
  cases h with
  | @digits a b c e => exact ⟨[a, b, c, e], rfl⟩

theorem numberedEscape?_unit {x more : Text} {n : Nat} (h : UnitEscape ('\\' :: 'u' :: x) n) :
    numberedEscape? d (x ++ more) =
      if IsHigh n then
        match lowUnit? more with
        | some (m, rest) => some (pairPoint n m, rest)
        | none => if d.loneSurrogates then some (CodePoint.ofNat n, more) else none
      else if IsLow n then if d.loneSurrogates then some (CodePoint.ofNat n, more) else none
      else some (CodePoint.ofNat n, more) := by
  rw [numberedEscape?, unit?_iff.mpr ⟨x, h, rfl⟩]
  rfl

/-- The first escape by number of a text, read, leaves the text behind it to be read. -/
theorem readText?_numbered {x more behind : Text} {c : CodePoint} {fuel : Nat}
    (escaped : numberedEscape? d (x ++ more) = some (c, behind)) :
    readText? d (fuel + 1) (CodePoint.ofChar '\\' :: CodePoint.ofChar 'u' :: x ++ more) =
      (readText? d fuel behind).map fun r => (c :: r.1, r.2) := by
  show readText? d (fuel + 1) (CodePoint.ofChar '\\' :: CodePoint.ofChar 'u' :: (x ++ more)) = _
  rw [readText?, if_neg (by decide), if_pos rfl]
  dsimp only
  rw [if_pos rfl, escaped]
  show (readText? d fuel behind >>= fun r => some (c :: r.1, r.2)) = _
  cases readText? d fuel behind <;> rfl

theorem readText?_complete {w t : Text} (h : Chars d w t) (rest : Text) {fuel : Nat}
    (enough : w.length < fuel) :
    readText? d fuel (w ++ CodePoint.ofChar '"' :: rest) = some (t, rest) := by
  induction h generalizing fuel with
  | nil =>
      obtain ⟨fuel, rfl⟩ : ∃ k, fuel = k + 1 := ⟨fuel - 1, by omega⟩
      rfl
  | @plain c w t notQuote notEscape visible _ ih =>
      obtain ⟨fuel, rfl⟩ : ∃ k, fuel = k + 1 := ⟨fuel - 1, by omega⟩
      rw [List.length_cons] at enough
      rw [List.cons_append, readText?.eq_def]
      dsimp only
      rw [if_neg notQuote, if_neg notEscape, if_neg (Nat.not_lt.mpr visible), ih (by omega)]
      rfl
  | @letter e c w t known _ ih =>
      obtain ⟨fuel, rfl⟩ : ∃ k, fuel = k + 1 := ⟨fuel - 1, by omega⟩
      rw [List.length_cons, List.length_cons] at enough
      have other : e ≠ CodePoint.ofChar 'u' := by
        rintro rfl
        exact letterEscapes_ne_u known
      rw [List.cons_append, List.cons_append, readText?, if_neg (by decide), if_pos rfl]
      dsimp only
      rw [if_neg other, letterEscape?_iff.mpr known, ih (by omega)]
      rfl
  | @unit u w t n escape notHigh notLow _ ih =>
      obtain ⟨fuel, rfl⟩ : ∃ k, fuel = k + 1 := ⟨fuel - 1, by omega⟩
      obtain ⟨x, rfl⟩ := escape.marked
      rw [List.length_append, List.length_cons] at enough
      rw [List.append_assoc, readText?_numbered (c := CodePoint.ofNat n), ih (by omega)]
      · rfl
      · rw [numberedEscape?_unit escape, if_neg notHigh, if_neg notLow]
  | @pair u v w t m n first second high low _ ih =>
      obtain ⟨fuel, rfl⟩ : ∃ k, fuel = k + 1 := ⟨fuel - 1, by omega⟩
      obtain ⟨x, rfl⟩ := first.marked
      simp only [List.length_append, List.length_cons] at enough
      have other (more : Text) : lowUnit? (v ++ more) = some (n, more) :=
        lowUnit?_iff.mpr ⟨v, second, low, rfl⟩
      rw [List.append_assoc, readText?_numbered (c := pairPoint m n), ih (by omega)]
      · rfl
      · rw [numberedEscape?_unit first, if_pos high, List.append_assoc, other]
  | @half u w t n lone escape half _ ih =>
      obtain ⟨fuel, rfl⟩ : ∃ k, fuel = k + 1 := ⟨fuel - 1, by omega⟩
      obtain ⟨x, rfl⟩ := escape.marked
      rw [List.length_append, List.length_cons] at enough
      rw [List.append_assoc, readText?_numbered (c := CodePoint.ofNat n), ih (by omega)]
      · rfl
      · rw [numberedEscape?_unit escape]
        rcases half with low | ⟨high, alone⟩
        · have notHigh : ¬ IsHigh n := fun high => by
            have := low.1
            have := high.2
            omega
          rw [if_neg notHigh, if_pos low, if_pos lone]
        · have none : lowUnit? (w ++ CodePoint.ofChar '"' :: rest) = none := by
            refine Option.eq_none_iff_forall_not_mem.mpr fun ⟨m, more⟩ found => ?_
            obtain ⟨v, second, low, whole⟩ := lowUnit?_iff.mp found
            exact alone second (second.prefix_inside ⟨more, whole.symm⟩) low
          rw [if_pos high, none]
          exact if_pos lone

/-! ## What stands behind a value -/

/-- Nothing, a blank, or a mark that ends a value. -/
inductive Closed : Text → Prop
  | nothing : Closed []
  | blank {c : CodePoint} (rest : Text) : isBlank c = true → Closed (c :: rest)
  | mark {c : CodePoint} (rest : Text) :
      c = CodePoint.ofChar ',' ∨ c = CodePoint.ofChar ']' ∨ c = CodePoint.ofChar '\x7d' →
      Closed (c :: rest)

theorem Closed.append {b rest : Text} (hb : Blank b) (h : Closed rest) : Closed (b ++ rest) := by
  cases b with
  | nil => exact h
  | cons c b => exact .blank (b ++ rest) (hb c List.mem_cons_self)

/-- The text does not go on with a digit. -/
def NoDigit (t : Text) : Prop := ∀ c ∈ t.head?, c.isAsciiDigit = false

/-- The text goes on with nothing that could belong to a number. -/
def NoNumber (t : Text) : Prop :=
  ∀ c ∈ t.head?, c.isAsciiDigit = false ∧ c ≠ '.' ∧ c ≠ 'e' ∧ c ≠ 'E'

theorem NoNumber.noDigit {t : Text} (h : NoNumber t) : NoDigit t := fun c mem => (h c mem).1

theorem Closed.noNumber {rest : Text} (h : Closed rest) : NoNumber rest := by
  intro e mem
  cases h with
  | nothing => cases mem
  | blank _ blank =>
      cases mem
      have other {a : Char} (ha : isBlank (CodePoint.ofChar a) = false) :
          e ≠ CodePoint.ofChar a := by
        rintro rfl
        exact nomatch ha.symm.trans blank
      refine ⟨?_, other rfl, other rfl, other rfl⟩
      simp only [isBlank, Bool.or_eq_true, decide_eq_true_eq] at blank
      simp only [CodePoint.isAsciiDigit, Bool.and_eq_false_iff, decide_eq_false_iff_not]
      omega
  | mark _ mark =>
      cases mem
      rcases mark with rfl | rfl | rfl <;> decide

/-! ## Numbers -/

theorem digits_append {ds rest : Text} (hd : IsDigits ds) (stop : NoDigit rest) :
    digits (ds ++ rest) = (ds, rest) := by
  obtain ⟨front, back⟩ := span_digits hd stop
  rw [digits, front, back]

theorem digits_eq {t ds rest : Text} (h : digits t = (ds, rest)) :
    IsDigits ds ∧ t = ds ++ rest := by
  obtain ⟨rfl, rfl⟩ := Prod.mk.inj h
  exact ⟨fun c mem => List.all_eq_true.mp List.all_takeWhile c mem,
    List.takeWhile_append_dropWhile.symm⟩

theorem Digits.head {ds : Text} (h : Digits ds) :
    ∃ c more, ds = c :: more ∧ c.isAsciiDigit = true := by
  obtain ⟨c, more, rfl⟩ := List.exists_cons_of_ne_nil h.ne_nil
  exact ⟨c, more, rfl, h.run c List.mem_cons_self⟩

theorem whole?_sound {t ds rest : Text} (h : whole? t = some (ds, rest)) :
    Whole ds ∧ t = ds ++ rest := by
  unfold whole? at h
  split at h
  · cases h
  · rename_i z more tail found
    obtain ⟨run, rfl⟩ := digits_eq found
    split at h
    · cases h
    · rename_i leading
      cases h
      refine ⟨⟨⟨run, List.cons_ne_nil _ _⟩, fun {rest} same => ?_⟩, rfl⟩
      obtain ⟨rfl, rfl⟩ := List.cons.inj same
      exact Decidable.not_not.mp fun some => leading ⟨rfl, some⟩

theorem whole?_complete {ds rest : Text} (h : Whole ds) (stop : NoDigit rest) :
    whole? (ds ++ rest) = some (ds, rest) := by
  rw [whole?, digits_append h.run stop]
  obtain ⟨z, more, rfl, -⟩ := h.toDigits.head
  refine if_neg ?_
  rintro ⟨rfl, some⟩
  exact some (h.leading rfl)

theorem fraction?_sound {t rest : Text} {after : Option Text}
    (h : fraction? t = some (after, rest)) : ∃ w, Fraction w after ∧ t = w ++ rest := by
  unfold fraction? at h
  split at h
  · cases h
    exact ⟨[], .absent, rfl⟩
  · split at h
    · rename_i point
      split at h
      · cases h
      · rename_i some found
        cases h
        obtain ⟨run, rfl⟩ := digits_eq found
        exact ⟨_ :: _, point ▸ .digits ⟨run, some⟩, rfl⟩
    · cases h
      exact ⟨[], .absent, rfl⟩

theorem fraction?_complete {w rest : Text} {after : Option Text} (h : Fraction w after)
    (stop : NoDigit rest) (noPoint : ∀ c ∈ rest.head?, c ≠ '.') :
    fraction? (w ++ rest) = some (after, rest) := by
  cases h with
  | absent =>
      cases rest with
      | nil => rfl
      | cons c more => exact if_neg (noPoint c rfl)
  | @digits ds some =>
      rw [List.cons_append, fraction?, if_pos rfl, digits_append some.run stop]
      obtain ⟨c, more, rfl, -⟩ := some.head
      rfl

theorem exponentSign_sound {t rest : Text} {negative : Bool}
    (h : exponentSign t = (negative, rest)) : ∃ s, ExponentSign s negative ∧ t = s ++ rest := by
  unfold exponentSign at h
  split at h
  · cases h
    exact ⟨[], .absent, rfl⟩
  · split at h
    · rename_i minus
      cases h
      exact ⟨_, .minus, congrArg (· :: _) minus⟩
    · split at h
      · rename_i plus
        cases h
        exact ⟨_, .plus, congrArg (· :: _) plus⟩
      · cases h
        exact ⟨[], .absent, rfl⟩

theorem exponentSign_complete {s ds : Text} {negative : Bool} (h : ExponentSign s negative)
    (some : Digits ds) (rest : Text) :
    exponentSign (s ++ (ds ++ rest)) = (negative, ds ++ rest) := by
  cases h with
  | absent =>
      obtain ⟨c, more, rfl, digit⟩ := some.head
      have other {a : Char} (ha : (CodePoint.ofChar a).isAsciiDigit = false) :
          c ≠ CodePoint.ofChar a := by
        rintro rfl
        exact nomatch ha.symm.trans digit
      show (if _ then _ else if _ then _ else _) = _
      rw [if_neg (other rfl), if_neg (other rfl)]
      rfl
  | plus => rfl
  | minus => rfl

theorem exponent?_sound {t rest : Text} {exponent : Option Int}
    (h : exponent? t = some (exponent, rest)) : ∃ w, Exponent w exponent ∧ t = w ++ rest := by
  unfold exponent? at h
  split at h
  · cases h
    exact ⟨[], .absent, rfl⟩
  · rename_i e more
    split at h
    · rename_i letter
      cases marked : exponentSign more with
      | mk negative behind =>
      rw [marked] at h
      dsimp only at h
      split at h
      · cases h
      · rename_i some found
        cases h
        obtain ⟨s, mark, rfl⟩ := exponentSign_sound marked
        obtain ⟨run, rfl⟩ := digits_eq found
        exact ⟨e :: (s ++ _), .digits letter mark ⟨run, some⟩,
          congrArg (e :: ·) (List.append_assoc s _ _).symm⟩
    · cases h
      exact ⟨[], .absent, rfl⟩

theorem exponent?_complete {w rest : Text} {exponent : Option Int} (h : Exponent w exponent)
    (stop : NoNumber rest) : exponent? (w ++ rest) = some (exponent, rest) := by
  cases h with
  | absent =>
      cases rest with
      | nil => rfl
      | cons c more =>
          obtain ⟨-, -, small, great⟩ := stop c rfl
          exact if_neg (not_or.mpr ⟨small, great⟩)
  | @digits e s ds negative letter mark some =>
      rw [List.cons_append, exponent?, if_pos letter, List.append_assoc,
        exponentSign_complete mark some]
      dsimp only
      rw [digits_append some.run stop.noDigit]
      obtain ⟨c, more, rfl, -⟩ := some.head
      rfl

/-- What follows the digits of a number cannot go on with digits. -/
theorem noDigit_behind {f e rest : Text} {after : Option Text} {exponent : Option Int}
    (hf : Fraction f after) (he : Exponent e exponent) (stop : NoNumber rest) :
    NoDigit (f ++ (e ++ rest)) ∧ NoDigit (e ++ rest) ∧ ∀ c ∈ (e ++ rest).head?, c ≠ '.' := by
  have behind : NoDigit (e ++ rest) ∧ ∀ c ∈ (e ++ rest).head?, c ≠ '.' := by
    cases he with
    | absent => exact ⟨stop.noDigit, fun c mem => (stop c mem).2.1⟩
    | digits letter _ _ =>
        refine ⟨fun c mem => ?_, fun c mem => ?_⟩
        all_goals
          cases mem
          rcases letter with rfl | rfl <;> decide
  refine ⟨?_, behind⟩
  cases hf with
  | absent => exact behind.1
  | digits _ =>
      intro c mem
      cases mem
      rfl

theorem number?_sound {negative : Bool} {t rest : Text} {v : Value}
    (h : number? d negative t = some (v, rest)) :
    ∃ w, Scalar d (sign negative ++ w) v ∧ t = w ++ rest := by
  obtain ⟨⟨ds, afterWhole⟩, whole, read⟩ := Option.bind_eq_some_iff.mp h
  dsimp only at read
  split at read
  · rename_i lead
    obtain ⟨⟨after, afterFraction⟩, fractional, behind⟩ := Option.bind_eq_some_iff.mp read
    obtain ⟨⟨exponent, afterExponent⟩, exponential, made⟩ := Option.bind_eq_some_iff.mp behind
    obtain ⟨digits, rfl⟩ := whole?_sound whole
    obtain ⟨f, fraction, rfl⟩ := fraction?_sound fractional
    obtain ⟨e, exponent, rfl⟩ := exponent?_sound exponential
    dsimp only at made
    split at made
    · split at made
      · rename_i short
        cases made
        cases fraction
        cases exponent
        exact ⟨ds, .int digits lead short, rfl⟩
      · cases made
    · rename_i pointed
      cases made
      refine ⟨ds ++ (f ++ e), .real digits lead fraction exponent ?_,
        by simp only [List.append_assoc]⟩
      intro none
      obtain ⟨rfl, rfl⟩ := List.append_eq_nil_iff.mp none
      cases fraction
      cases exponent
      exact pointed rfl rfl
  · cases read

theorem number?_int {negative : Bool} {ds rest : Text} (whole : Whole ds)
    (lead : within d.maxLead ds.length = true)
    (digits : within d.maxDigits ds.length = true) (stop : NoNumber rest) :
    number? d negative (ds ++ rest) = some (.int (signed negative ds), rest) := by
  have fraction : fraction? ([] ++ rest) = some (none, rest) :=
    fraction?_complete .absent stop.noDigit fun c mem => (stop c mem).2.1
  have exponent : exponent? ([] ++ rest) = some (none, rest) := exponent?_complete .absent stop
  rw [List.nil_append] at fraction exponent
  rw [number?, whole?_complete whole stop.noDigit]
  show (if within d.maxLead ds.length = true then _ else _) = _
  rw [if_pos lead, fraction]
  show (exponent? rest >>= _) = _
  rw [exponent]
  exact if_pos digits

theorem number?_real {negative : Bool} {ds f e rest : Text} {after : Option Text}
    {exponent : Option Int} (whole : Whole ds)
    (lead : within d.maxLead ds.length = true) (hf : Fraction f after)
    (he : Exponent e exponent) (pointed : f ++ e ≠ []) (stop : NoNumber rest) :
    number? d negative (ds ++ (f ++ (e ++ rest))) =
      some (.real (scaled negative ds (after.getD []) (exponent.getD 0)), rest) := by
  obtain ⟨behindWhole, behindFraction, noPoint⟩ := noDigit_behind hf he stop
  rw [number?, whole?_complete whole behindWhole]
  show (if within d.maxLead ds.length = true then _ else _) = _
  rw [if_pos lead, fraction?_complete hf behindFraction noPoint]
  show (exponent? (e ++ rest) >>= _) = _
  rw [exponent?_complete he stop]
  cases hf with
  | digits => rfl
  | absent =>
      cases he with
      | digits => rfl
      | absent => exact absurd rfl pointed

/-! ## Names -/

theorem named?_sound {t rest : Text} {v : Value} (h : named? t = some (v, rest)) :
    ∃ w, (w, v) ∈ names ∧ t = w ++ rest := by
  have word {name : Text} {w : Value} (known : (name, w) ∈ names)
      (h : (dropStart? name t).map (w, ·) = some (v, rest)) :
      ∃ w, (w, v) ∈ names ∧ t = w ++ rest := by
    obtain ⟨r, dropped, same⟩ := Option.map_eq_some_iff.mp h
    cases same
    exact ⟨name, known, dropStart?_iff.mp dropped⟩
  simp only [named?, Option.orElse_eq_orElse, Option.orElse_eq_or, Option.or_eq_some_iff] at h
  rcases h with h | ⟨-, h | ⟨-, h | ⟨-, h | ⟨-, h | ⟨-, h⟩⟩⟩⟩⟩
  · exact word (.head _) h
  · exact word (.tail _ (.head _)) h
  · exact word (.tail _ (.tail _ (.head _))) h
  · exact word (.tail _ (.tail _ (.tail _ (.head _)))) h
  · exact word (.tail _ (.tail _ (.tail _ (.tail _ (.head _))))) h
  · exact word (.tail _ (.tail _ (.tail _ (.tail _ (.tail _ (.head _)))))) h

/-- No name begins with a digit. -/
theorem dropStart?_digit {name : Text} (h : name.head?.map CodePoint.isAsciiDigit = some false)
    {c : CodePoint} (digit : c.isAsciiDigit = true) (rest : Text) :
    dropStart? name (c :: rest) = none := by
  cases name with
  | nil => cases h
  | cons p start =>
      rw [dropStart?, if_neg]
      rintro rfl
      exact nomatch (Option.some.inj h).symm.trans digit

theorem named?_digit {c : CodePoint} (digit : c.isAsciiDigit = true) (rest : Text) :
    named? (c :: rest) = none := by
  have other (name : Text) (h : name.head?.map CodePoint.isAsciiDigit = some false) :=
    dropStart?_digit h digit rest
  simp only [named?, other "null" rfl, other "true" rfl, other "false" rfl, other "NaN" rfl,
    other "Infinity" rfl, other "-Infinity" rfl, Option.map_none]
  rfl

theorem named?_minus {c : CodePoint} (digit : c.isAsciiDigit = true) (rest : Text) :
    named? (CodePoint.ofChar '-' :: c :: rest) = none := by
  have infinity : dropStart? "Infinity" (c :: rest) = none := dropStart?_digit rfl digit rest
  show Option.orElse none (fun _ => (dropStart? "Infinity" (c :: rest)).map _) = none
  rw [infinity]
  rfl

/-! ## Names and numbers -/

theorem scalar?_sound {t rest : Text} {v : Value} (h : scalar? d t = some (v, rest)) :
    ∃ w, Scalar d w v ∧ t = w ++ rest := by
  simp only [scalar?, Option.orElse_eq_orElse, Option.orElse_eq_or, Option.or_eq_some_iff] at h
  rcases h with h | ⟨-, h⟩
  · obtain ⟨w, known, rfl⟩ := named?_sound h
    exact ⟨w, .named known, rfl⟩
  · split at h
    · cases h
    · rename_i c more
      split at h
      · rename_i minus
        obtain ⟨w, scalar, rfl⟩ := number?_sound h
        exact ⟨_, scalar, congrArg (· :: (w ++ rest)) minus⟩
      · exact number?_sound h

/-- A sign and digits, with anything behind them, are read as a number. -/
theorem scalar?_signed {negative : Bool} {ds : Text} (some : Digits ds) (rest : Text) :
    scalar? d (sign negative ++ (ds ++ rest)) = number? d negative (ds ++ rest) := by
  obtain ⟨c, more, rfl, digit⟩ := some.head
  cases negative with
  | false =>
      have plus : c ≠ CodePoint.ofChar '-' := by
        rintro rfl
        cases digit
      show (named? (c :: (more ++ rest)) <|> if c = CodePoint.ofChar '-' then _ else
        number? d false (c :: more ++ rest)) = _
      rw [named?_digit digit, if_neg plus]
      rfl
  | true =>
      show (named? (CodePoint.ofChar '-' :: c :: (more ++ rest)) <|>
        number? d true (c :: more ++ rest)) = _
      rw [named?_minus digit]
      rfl

theorem scalar?_complete {w rest : Text} {v : Value} (h : Scalar d w v) (closed : Closed rest) :
    scalar? d (w ++ rest) = some (v, rest) := by
  cases h with
  | named known =>
      simp only [names, List.mem_cons, Prod.mk.injEq, List.not_mem_nil, or_false] at known
      rcases known with
        ⟨rfl, rfl⟩ | ⟨rfl, rfl⟩ | ⟨rfl, rfl⟩ | ⟨rfl, rfl⟩ | ⟨rfl, rfl⟩ | ⟨rfl, rfl⟩ <;> rfl
  | int whole lead digits =>
      rw [List.append_assoc, scalar?_signed whole.toDigits,
        number?_int whole lead digits closed.noNumber]
  | real whole lead fraction exponent pointed =>
      simp only [List.append_assoc]
      rw [scalar?_signed whole.toDigits,
        number?_real whole lead fraction exponent pointed closed.noNumber]

end QueryGateway.Json
