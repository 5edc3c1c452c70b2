import QueryGateway.Number.Reading
import QueryGateway.Proofs.Number.Binary64
import QueryGateway.Proofs.Text.Case
import QueryGateway.Proofs.Text.Decimal
import QueryGateway.Proofs.Text.Pieces

/-!
# Which texts are numbers

The texts that name a floating point number, said without a reader. `Plain` is the grammar: a sign,
digits with a point somewhere among them, an exponent, or one of three names. `Spelled` says what may
be written for a plain text: digits of any script for the ASCII digits, and a single underscore
between two digits. What a text means is exact (`Meaning`), and the number is the nearest one of the
format.

`real?_eq_some` says that the reader accepts these texts and no others. A number is greater than zero
unless it is negative, no number at all, or so small that zero is nearer (`nearest_isPositive`).
-/

namespace QueryGateway.Number

open Text

/-! ## The grammar -/

/-- What a text means, before it is rounded: digits times a power of ten, or a name. -/
inductive Meaning where
  | decimal (negative : Bool) (digits : Nat) (scale : Int)
  | infinite (negative : Bool)
  | nan

/-- A sign, which may be left out. -/
inductive Sign : Text → Bool → Prop
  | absent : Sign [] false
  | plus : Sign ['+'] false
  | minus : Sign ['-'] true

/-- Digits with at most one point among them, and how many of them are behind it. -/
inductive Mantissa : Text → Text → Nat → Prop
  | whole {ds : Text} : IsDigits ds → ds ≠ [] → Mantissa ds ds 0
  | pointed {ds es : Text} : IsDigits ds → IsDigits es → ds ++ es ≠ [] →
      Mantissa (ds ++ CodePoint.ofChar '.' :: es) (ds ++ es) es.length

/-- The number that digits stand for behind a sign. -/
def signed (negative : Bool) (ds : Text) : Int :=
  if negative then -(digitsValue ds : Int) else digitsValue ds

/-- An exponent behind its letter, or nothing. -/
inductive Exponent : Text → Int → Prop
  | absent : Exponent [] 0
  | given {e : CodePoint} {s ds : Text} {negative : Bool} : e = 'e' ∨ e = 'E' →
      Sign s negative → IsDigits ds → ds ≠ [] → Exponent (e :: (s ++ ds)) (signed negative ds)

/-- A number in ASCII, without blanks and underscores. -/
inductive Plain : Text → Meaning → Prop
  | decimal {s t ds u : Text} {negative : Bool} {behind : Nat} {x : Int} : Sign s negative →
      Mantissa t ds behind → Exponent u x →
      Plain (s ++ (t ++ u)) (.decimal negative (digitsValue ds) (x - behind))
  | infinite {s t : Text} {negative : Bool} : Sign s negative →
      t.asciiLower = "inf" ∨ t.asciiLower = "infinity" → Plain (s ++ t) (.infinite negative)
  | nan {s t : Text} {negative : Bool} : Sign s negative → t.asciiLower = "nan" →
      Plain (s ++ t) .nan

/-- What may be written for a text: a digit of any script for each digit, and an underscore between
two of them. -/
inductive Spelled : Text → Text → Prop
  | done : Spelled [] []
  | digit {c : CodePoint} {n : Nat} {t p : Text} : c.decimal? = some n → Spelled t p →
      Spelled (c :: t) (decimal n :: p)
  | mark {c : CodePoint} {t p : Text} : c.decimal? = none → c ≠ '_' → Spelled t p →
      Spelled (c :: t) (c :: p)
  | spaced {c d : CodePoint} {m n : Nat} {t p : Text} : c.decimal? = some m → d.decimal? = some n →
      Spelled (d :: t) p → Spelled (c :: '_' :: d :: t) (decimal m :: p)

/-- A text that names a number, and what it means. -/
def Numeral (t : Text) (m : Meaning) : Prop := ∃ p, Spelled t p ∧ Plain p m

/-- The number of the format that is nearest to a meaning. -/
def Meaning.nearest : Meaning → Binary64
  | .decimal negative digits scale => .ofDecimal negative digits scale
  | .infinite negative => .infinite negative
  | .nan => .nan 0

/-! ## Digits of all scripts -/

theorem decimal?_lt {c : CodePoint} {n : Nat} (h : c.decimal? = some n) : n < 10 := by
  unfold CodePoint.decimal? at h
  split at h
  · split at h
    · rename_i digit
      have range := isAsciiDigit_iff.mp digit
      cases h
      omega
    · cases h
  · obtain ⟨row, found, rfl⟩ := Option.map_eq_some_iff.mp h
    have within := List.find?_some found
    rw [Bool.and_eq_true, decide_eq_true_eq, decide_eq_true_eq] at within
    omega

theorem asciiDigit_of_some {c : CodePoint} {n : Nat} (h : c.decimal? = some n) :
    asciiDigit c = decimal n := by
  rw [asciiDigit, h]
  rfl

theorem asciiDigit_of_none {c : CodePoint} (h : c.decimal? = none) : asciiDigit c = c := by
  rw [asciiDigit, h]

theorem decimal_isDigit {c : CodePoint} {n : Nat} (h : c.decimal? = some n) :
    (decimal n).isAsciiDigit = true :=
  isAsciiDigit_decimal (decimal?_lt h)

/-- An ASCII digit is a digit. -/
theorem decimal?_of_isAsciiDigit {c : CodePoint} (h : c.isAsciiDigit = true) :
    ∃ n, c.decimal? = some n := by
  have range := isAsciiDigit_iff.mp h
  have ascii : c.isAscii = true := decide_eq_true (by omega)
  exact ⟨c.val - 0x30, by rw [CodePoint.decimal?, if_pos ascii, if_pos h]⟩

theorem not_isAsciiDigit {c : CodePoint} (h : c.decimal? = none) : c.isAsciiDigit = false := by
  cases digit : c.isAsciiDigit with
  | false => rfl
  | true =>
      obtain ⟨n, some⟩ := decimal?_of_isAsciiDigit digit
      cases h.symm.trans some

theorem isAsciiDigit_asciiDigit (c : CodePoint) :
    (asciiDigit c).isAsciiDigit = c.decimal?.isSome := by
  cases h : c.decimal? with
  | none => rw [asciiDigit_of_none h, not_isAsciiDigit h, Option.isSome_none]
  | some n => rw [asciiDigit_of_some h, decimal_isDigit h, Option.isSome_some]

/-! ## Underscores -/

/-- The text does not begin with an underscore. -/
def Unscored (t : Text) : Prop := ∀ c ∈ t.head?, c ≠ CodePoint.ofChar '_'

theorem unscored_nil : Unscored [] := by
  intro c first
  cases first

theorem unscored_cons {c : CodePoint} {t : Text} (h : c ≠ CodePoint.ofChar '_') :
    Unscored (c :: t) := by
  rintro d ⟨⟩
  exact h

theorem exists_of_not_unscored {t : Text} (h : ¬ Unscored t) :
    ∃ rest, t = CodePoint.ofChar '_' :: rest := by
  cases t with
  | nil => exact absurd unscored_nil h
  | cons c rest =>
      by_cases score : c = CodePoint.ofChar '_'
      · exact ⟨rest, by rw [score]⟩
      · exact absurd (unscored_cons score) h

theorem decimal?_score : (CodePoint.ofChar '_').decimal? = none := by decide

theorem ne_score {c : CodePoint} {n : Nat} (h : c.decimal? = some n) :
    c ≠ CodePoint.ofChar '_' := by
  rintro rfl
  cases decimal?_score.symm.trans h

theorem asciiDigit_ne_score {c : CodePoint} (h : c ≠ CodePoint.ofChar '_') :
    asciiDigit c ≠ CodePoint.ofChar '_' := by
  cases digit : c.decimal? with
  | none => rwa [asciiDigit_of_none digit]
  | some n =>
      rw [asciiDigit_of_some digit]
      exact fun same => absurd (same ▸ decimal_isDigit digit) (by decide)

theorem dropUnderscores?_cons {c : CodePoint} (h : c ≠ CodePoint.ofChar '_') (last : CodePoint)
    (t : Text) : dropUnderscores? last (c :: t) = (dropUnderscores? c t).map (c :: ·) := by
  rw [dropUnderscores?.eq_def]
  exact if_neg h

/-- An underscore is dropped if a digit is on either side. -/
theorem dropUnderscores?_score (last d : CodePoint) (t : Text) :
    dropUnderscores? last (CodePoint.ofChar '_' :: d :: t) =
      if last.isAsciiDigit && d.isAsciiDigit then dropUnderscores? '_' (d :: t) else none := by
  rw [dropUnderscores?.eq_def]
  exact if_pos rfl

theorem Spelled.drop {t p : Text} (h : Spelled t p) (last : CodePoint) :
    dropUnderscores? last (t.map asciiDigit) = some p := by
  induction h generalizing last with
  | done => rfl
  | @digit c n t p some rest ih =>
      rw [List.map_cons, dropUnderscores?_cons (asciiDigit_ne_score (ne_score some)), ih,
        asciiDigit_of_some some]
      rfl
  | @mark c t p none other rest ih =>
      rw [List.map_cons, dropUnderscores?_cons (asciiDigit_ne_score other), ih,
        asciiDigit_of_none none]
      rfl
  | @spaced c d m n t p some next rest ih =>
      have kept : asciiDigit '_' = CodePoint.ofChar '_' := asciiDigit_of_none decimal?_score
      rw [List.map_cons, dropUnderscores?_cons (asciiDigit_ne_score (ne_score some)), List.map_cons,
        kept, List.map_cons, dropUnderscores?_score, isAsciiDigit_asciiDigit,
        isAsciiDigit_asciiDigit, some, next, ← List.map_cons, Option.isSome_some, Option.isSome_some,
        Bool.and_self, if_pos rfl, ih, asciiDigit_of_some some]
      rfl

/-- The induction is on the length of the text: behind a character stands nothing, a character that is
no underscore, or an underscore and a digit. -/
theorem spelled_of_drop {t p : Text} {last : CodePoint} (unscored : Unscored t)
    (h : dropUnderscores? last (t.map asciiDigit) = some p) : Spelled t p := by
  induction n : t.length using Nat.strongRecOn generalizing t p last with
  | ind n ih =>
      cases t with
      | nil =>
          cases h
          exact .done
      | cons c t =>
          have other := unscored c rfl
          rw [List.map_cons, dropUnderscores?_cons (asciiDigit_ne_score other)] at h
          obtain ⟨q, dropped, rfl⟩ := Option.map_eq_some_iff.mp h
          by_cases apart : Unscored t
          · have rest := ih t.length (by rw [← n]; exact Nat.lt_succ_self _) apart dropped rfl
            cases digit : c.decimal? with
            | none =>
                rw [asciiDigit_of_none digit]
                exact .mark digit other rest
            | some k =>
                rw [asciiDigit_of_some digit]
                exact .digit digit rest
          · obtain ⟨t, rfl⟩ := exists_of_not_unscored apart
            rw [List.map_cons, asciiDigit_of_none decimal?_score] at dropped
            cases t with
            | nil => cases dropped
            | cons d t =>
                rw [List.map_cons, dropUnderscores?_score, isAsciiDigit_asciiDigit,
                  isAsciiDigit_asciiDigit] at dropped
                split at dropped
                · rename_i digits
                  obtain ⟨first, next⟩ := Bool.and_eq_true_iff.mp digits
                  obtain ⟨k, first⟩ := Option.isSome_iff_exists.mp first
                  obtain ⟨m, next⟩ := Option.isSome_iff_exists.mp next
                  rw [← List.map_cons] at dropped
                  rw [asciiDigit_of_some first]
                  have shorter : (d :: t).length < (c :: CodePoint.ofChar '_' :: d :: t).length := by
                    simp only [List.length_cons]
                    omega
                  refine .spaced first next (ih _ (n ▸ shorter) ?_ dropped rfl)
                  exact unscored_cons (ne_score next)
                · cases dropped

/-- The reader accepts underscores where they may be written. -/
theorem drop_eq_some {t p : Text} :
    dropUnderscores? '_' (t.map asciiDigit) = some p ↔ Spelled t p := by
  refine ⟨fun h => spelled_of_drop ?_ h, fun h => h.drop '_'⟩
  by_contra scored
  obtain ⟨rest, rfl⟩ := exists_of_not_unscored scored
  rw [List.map_cons, asciiDigit_of_none decimal?_score] at h
  cases rest with
  | nil => cases h
  | cons d rest =>
      rw [List.map_cons, dropUnderscores?_score] at h
      cases h

/-! ## Signs and exponents -/

/-- The text does not begin with a sign. -/
def Unsigned (t : Text) : Prop := ∀ c ∈ t.head?, c ≠ CodePoint.ofChar '-' ∧ c ≠ CodePoint.ofChar '+'

theorem exists_sign (t : Text) :
    ∃ s negative body, Sign s negative ∧ t = s ++ body ∧ splitSign t = (negative, body) := by
  cases t with
  | nil => exact ⟨[], false, [], .absent, rfl, rfl⟩
  | cons c t =>
      rw [splitSign]
      split
      · rename_i minus
        exact ⟨_, true, t, .minus, by rw [minus]; rfl, rfl⟩
      · split
        · rename_i plus
          exact ⟨_, false, t, .plus, by rw [plus]; rfl, rfl⟩
        · exact ⟨[], false, c :: t, .absent, rfl, rfl⟩

theorem Sign.split {s t : Text} {negative : Bool} (sign : Sign s negative) (h : Unsigned t) :
    splitSign (s ++ t) = (negative, t) := by
  cases sign with
  | plus | minus => rfl
  | absent =>
      cases t with
      | nil => rfl
      | cons c t =>
          obtain ⟨noMinus, noPlus⟩ := h c rfl
          rw [List.nil_append, splitSign, if_neg noMinus, if_neg noPlus]

theorem unsigned_cons {c : CodePoint} (h : c.isAsciiDigit = true) (t : Text) :
    Unsigned (c :: t) := by
  rintro d ⟨⟩
  constructor
  · rintro rfl
    exact absurd h (by decide)
  · rintro rfl
    exact absurd h (by decide)

theorem unsigned_digits {ds : Text} (h : IsDigits ds) (some : ds ≠ []) (t : Text) :
    Unsigned (ds ++ t) := by
  obtain ⟨c, more, rfl⟩ := List.exists_cons_of_ne_nil some
  exact unsigned_cons (h c List.mem_cons_self) _

theorem exponent?_eq_some {t : Text} {x : Int} :
    exponent? t = some x ↔ ∃ s ds negative, Sign s negative ∧ IsDigits ds ∧ ds ≠ [] ∧
      t = s ++ ds ∧ x = signed negative ds := by
  unfold exponent?
  constructor
  · intro h
    obtain ⟨s, negative, ds, sign, whole, split⟩ := exists_sign t
    rw [split] at h
    dsimp only at h
    split at h
    · rename_i digits
      refine ⟨s, ds, negative, sign, ?_, digits.1, whole, (Option.some.inj h).symm⟩
      exact fun c mem => List.all_eq_true.mp digits.2 c mem
    · cases h
  · rintro ⟨s, ds, negative, sign, digits, nonempty, rfl, rfl⟩
    have unsigned := unsigned_digits digits nonempty []
    rw [List.append_nil] at unsigned
    rw [sign.split unsigned]
    exact if_pos ⟨nonempty, List.all_eq_true.mpr digits⟩

/-! ## Magnitudes -/

/-- What the reader makes of what stands behind the digits. -/
def tail? : Text → Option Int
  | [] => some 0
  | c :: more => if c = 'e' ∨ c = 'E' then exponent? more else none

theorem tail?_eq_some {u : Text} {x : Int} : tail? u = some x ↔ Exponent u x := by
  constructor
  · intro h
    cases u with
    | nil =>
        cases h
        exact .absent
    | cons c more =>
        rw [tail?] at h
        split at h
        · rename_i letter
          obtain ⟨s, ds, negative, sign, digits, nonempty, rfl, rfl⟩ := exponent?_eq_some.mp h
          exact .given letter sign digits nonempty
        · cases h
  · intro h
    cases h with
    | absent => rfl
    | given letter sign digits nonempty =>
        rw [tail?, if_pos letter]
        exact exponent?_eq_some.mpr ⟨_, _, _, sign, digits, nonempty, rfl, rfl⟩

/-- An exponent begins with no digit and no point. -/
theorem Exponent.front {u : Text} {x : Int} (h : Exponent u x) :
    ∀ c ∈ u.head?, c.isAsciiDigit = false ∧ c ≠ CodePoint.ofChar '.' := by
  cases h with
  | absent =>
      intro c first
      cases first
  | given letter =>
      rintro c ⟨⟩
      rcases letter with rfl | rfl <;> decide

variable {ds es u : Text}

theorem magnitude?_whole (negative : Bool) (digits : IsDigits ds)
    (stop : ∀ c ∈ u.head?, c.isAsciiDigit = false ∧ c ≠ CodePoint.ofChar '.') :
    magnitude? negative (ds ++ u) =
      if ds = [] then none
      else (tail? u).map fun x => .ofDecimal negative (digitsValue ds) x := by
  obtain ⟨front, back⟩ := span_digits digits fun c mem => (stop c mem).1
  unfold magnitude?
  rw [front, back]
  cases u with
  | nil =>
      by_cases bare : ds = []
      · simp only [bare, and_self, if_true]
      · simp only [bare, false_and, if_false, List.append_nil, tail?, Option.map_some]
        rfl
  | cons c more =>
      have noPoint := (stop c rfl).2
      by_cases bare : ds = []
      · simp only [bare, noPoint, and_self, if_true, if_false]
      · simp only [bare, noPoint, false_and, if_false, List.append_nil, tail?]
        split <;> simp

theorem magnitude?_pointed (negative : Bool) (digits : IsDigits ds) (more : IsDigits es)
    (stop : ∀ c ∈ u.head?, c.isAsciiDigit = false) :
    magnitude? negative (ds ++ CodePoint.ofChar '.' :: (es ++ u)) =
      if ds ++ es = [] then none
      else (tail? u).map fun x =>
        .ofDecimal negative (digitsValue (ds ++ es)) (x - (es.length : Int)) := by
  have point : ∀ c ∈ (CodePoint.ofChar '.' :: (es ++ u)).head?, c.isAsciiDigit = false := by
    rintro c ⟨⟩
    decide
  obtain ⟨front, back⟩ := span_digits digits point
  obtain ⟨front', back'⟩ := span_digits more stop
  unfold magnitude?
  rw [front, back]
  simp only [if_true, front', back', List.append_eq_nil_iff]
  split
  · rfl
  · cases u with
    | nil => simp only [tail?, Option.map_some, Int.zero_sub]
    | cons c more =>
        simp only [tail?]
        split
        · simp only [Int.sub_eq_add_neg, Int.add_comm]
        · rfl

/-- The reader takes digits with a point and an exponent, and nothing else. -/
theorem magnitude?_eq_some {negative : Bool} {t : Text} {x : Binary64} :
    magnitude? negative t = some x ↔ ∃ w ds behind u e, Mantissa w ds behind ∧ Exponent u e ∧
      t = w ++ u ∧ x = .ofDecimal negative (digitsValue ds) (e - (behind : Int)) := by
  constructor
  · intro h
    obtain ⟨ds, u, digits, stop, rfl⟩ := exists_span_digits t
    by_cases point : u.head? = some (CodePoint.ofChar '.')
    · obtain ⟨rest, rfl⟩ := List.head?_eq_some_iff.mp point
      obtain ⟨es, v, more, stop', rfl⟩ := exists_span_digits rest
      rw [magnitude?_pointed negative digits more stop'] at h
      split at h
      · cases h
      · rename_i some
        obtain ⟨e, tail, rfl⟩ := Option.map_eq_some_iff.mp h
        refine ⟨_, _, _, v, e, .pointed digits more some, tail?_eq_some.mp tail, ?_, rfl⟩
        rw [List.append_assoc, List.cons_append]
    · have stop : ∀ c ∈ u.head?, c.isAsciiDigit = false ∧ c ≠ CodePoint.ofChar '.' :=
        fun c first => ⟨stop c first, fun same => point (same ▸ first)⟩
      rw [magnitude?_whole negative digits stop] at h
      split at h
      · cases h
      · rename_i some
        obtain ⟨e, tail, rfl⟩ := Option.map_eq_some_iff.mp h
        refine ⟨_, _, _, u, e, .whole digits some, tail?_eq_some.mp tail, rfl, ?_⟩
        rw [Int.natCast_zero, Int.sub_zero]
  · rintro ⟨w, ds, behind, u, e, mantissa, exponent, rfl, rfl⟩
    have front := exponent.front
    have tail := tail?_eq_some.mpr exponent
    cases mantissa with
    | whole digits some =>
        rw [magnitude?_whole negative digits front, if_neg some, tail, Int.natCast_zero,
          Int.sub_zero]
        rfl
    | pointed digits more some =>
        rw [List.append_assoc, List.cons_append,
          magnitude?_pointed negative digits more fun c first => (front c first).1, if_neg some, tail]
        rfl

/-! ## The reader and the grammar -/

/-- One of the three names, whatever the case of its letters. -/
def Named (t : Text) : Prop :=
  t.asciiLower = "inf" ∨ t.asciiLower = "infinity" ∨ t.asciiLower = "nan"

/-- A name begins with a letter, so not with a sign, a digit or a point. -/
theorem Named.front {t : Text} (h : Named t) : ∀ c ∈ t.head?, 0x41 ≤ c.val := by
  intro c first
  obtain ⟨rest, rfl⟩ := List.head?_eq_some_iff.mp first
  have letter : c.asciiLower = CodePoint.ofChar 'i' ∨ c.asciiLower = CodePoint.ofChar 'n' := by
    rcases h with name | name | name
    · exact .inl (List.cons.inj name).1
    · exact .inl (List.cons.inj name).1
    · exact .inr (List.cons.inj name).1
  by_contra below
  have same : c.asciiLower = c := by
    rw [CodePoint.asciiLower, if_neg]
    rw [Bool.and_eq_true, decide_eq_true_eq, decide_eq_true_eq]
    omega
  rw [same] at letter
  rcases letter with rfl | rfl
  · exact below (by decide)
  · exact below (by decide)

theorem Named.unsigned {t : Text} (h : Named t) : Unsigned t := by
  intro c first
  have letter := h.front c first
  constructor
  · rintro rfl
    exact absurd letter (by decide)
  · rintro rfl
    exact absurd letter (by decide)

theorem Mantissa.front {w ds : Text} {behind : Nat} (h : Mantissa w ds behind) :
    ∃ c rest, w = c :: rest ∧ (c.isAsciiDigit = true ∨ c = CodePoint.ofChar '.') := by
  cases h with
  | whole digits some =>
      obtain ⟨c, rest, rfl⟩ := List.exists_cons_of_ne_nil some
      exact ⟨c, rest, rfl, .inl (digits c List.mem_cons_self)⟩
  | @pointed ds es digits =>
      cases ds with
      | nil => exact ⟨_, es, rfl, .inr rfl⟩
      | cons c rest => exact ⟨c, _, rfl, .inl (digits c List.mem_cons_self)⟩

/-- Digits begin with no sign and no name. -/
theorem Mantissa.plain {w ds : Text} {behind : Nat} (h : Mantissa w ds behind) (u : Text) :
    Unsigned (w ++ u) ∧ ¬ Named (w ++ u) := by
  obtain ⟨c, rest, rfl, front⟩ := h.front
  refine ⟨?_, fun named => ?_⟩
  · rintro d ⟨⟩
    rcases front with digit | rfl
    · exact unsigned_cons digit rest c rfl
    · decide
  · have letter := named.front c rfl
    rcases front with digit | rfl
    · have range := isAsciiDigit_iff.mp digit
      omega
    · exact absurd letter (by decide)

/-- What the reader makes of a text when the underscores are dropped. -/
def readPlain (p : Text) : Option Binary64 :=
  let (negative, body) := splitSign p
  let name := body.asciiLower
  if name = "inf" ∨ name = "infinity" then some (.infinite negative)
  else if name = "nan" then some (.nan 0)
  else magnitude? negative body

theorem real?_eq (t : Text) :
    real? t = (dropUnderscores? '_' (t.trim.map asciiDigit)).bind readPlain := rfl

theorem readPlain_eq_some {p : Text} {x : Binary64} :
    readPlain p = some x ↔ ∃ m, Plain p m ∧ x = m.nearest := by
  unfold readPlain
  constructor
  · intro h
    obtain ⟨s, negative, body, sign, rfl, split⟩ := exists_sign p
    rw [split] at h
    dsimp only at h
    split at h
    · rename_i name
      cases h
      exact ⟨.infinite negative, .infinite sign name, rfl⟩
    · split at h
      · rename_i name
        cases h
        exact ⟨.nan, .nan sign name, rfl⟩
      · obtain ⟨w, ds, behind, u, e, mantissa, exponent, rfl, rfl⟩ := magnitude?_eq_some.mp h
        exact ⟨.decimal negative (digitsValue ds) (e - behind), .decimal sign mantissa exponent, rfl⟩
  · rintro ⟨m, plain, rfl⟩
    cases plain with
    | decimal sign mantissa exponent =>
        obtain ⟨unsigned, noName⟩ := mantissa.plain _
        rw [sign.split unsigned]
        dsimp only
        rw [if_neg fun name => noName (name.imp_right .inl), if_neg fun name => noName (.inr (.inr name))]
        exact magnitude?_eq_some.mpr ⟨_, _, _, _, _, mantissa, exponent, rfl, rfl⟩
    | infinite sign name =>
        have named : Named _ := name.imp_right .inl
        rw [sign.split named.unsigned]
        exact if_pos name
    | nan sign name =>
        have named : Named _ := .inr (.inr name)
        rw [sign.split named.unsigned]
        dsimp only
        rw [name]
        rfl

/-! ## The case of letters -/

theorem decimal?_isAsciiLetter {c : CodePoint} (h : c.isAsciiLetter = true) : c.decimal? = none := by
  simp only [CodePoint.isAsciiLetter, Bool.or_eq_true, Bool.and_eq_true, decide_eq_true_eq] at h
  have ascii : c.isAscii = true := decide_eq_true (by omega)
  have noDigit : c.isAsciiDigit = false := by
    rw [Bool.eq_false_iff, ne_eq, isAsciiDigit_iff]
    omega
  rw [CodePoint.decimal?, if_pos ascii, noDigit]
  rfl

theorem decimal?_asciiLower (c : CodePoint) : c.asciiLower.decimal? = c.decimal? := by
  cases letter : c.isAsciiLetter with
  | false => rw [CodePoint.asciiLower_of_not_letter letter]
  | true =>
      rw [decimal?_isAsciiLetter letter,
        decimal?_isAsciiLetter (c.isAsciiLetter_asciiLower.trans letter)]

theorem decimal?_congr {c d : CodePoint} (same : d.asciiLower = c.asciiLower) :
    d.decimal? = c.decimal? := by
  rw [← decimal?_asciiLower d, same, decimal?_asciiLower]

theorem digits_caseless {ds : Text} (h : IsDigits ds) : ∀ c ∈ ds, c.isAsciiLetter = false := by
  intro c mem
  have range := isAsciiDigit_iff.mp (h c mem)
  simp only [CodePoint.isAsciiLetter, Bool.or_eq_false_iff, Bool.and_eq_false_iff,
    decide_eq_false_iff_not]
  omega

theorem score_congr {d : CodePoint} :
    d.asciiLower = (CodePoint.ofChar '_').asciiLower ↔ d = CodePoint.ofChar '_' :=
  CodePoint.asciiLower_eq_iff (by decide)

theorem Spelled.recase {t p u : Text} (h : Spelled t p) (same : u.asciiLower = t.asciiLower) :
    ∃ q, Spelled u q ∧ q.asciiLower = p.asciiLower := by
  induction h generalizing u with
  | done =>
      rw [List.map_eq_nil_iff.mp same]
      exact ⟨[], .done, rfl⟩
  | digit some rest ih =>
      obtain ⟨d, u, rfl, first, behind⟩ := asciiLower_eq_cons same
      obtain ⟨q, spelled, lower⟩ := ih behind
      exact ⟨_, .digit ((decimal?_congr first).trans some) spelled, congrArg (_ :: ·) lower⟩
  | @mark c t p none other rest ih =>
      obtain ⟨d, u, rfl, first, behind⟩ := asciiLower_eq_cons same
      obtain ⟨q, spelled, lower⟩ := ih behind
      refine ⟨d :: q, .mark ((decimal?_congr first).trans none) ?_ spelled, ?_⟩
      · rintro rfl
        exact other (score_congr.mp first.symm)
      · exact congrArg₂ List.cons first lower
  | spaced some next rest ih =>
      obtain ⟨d, _, rfl, first, more⟩ := asciiLower_eq_cons same
      obtain ⟨e, _, rfl, score, tail⟩ := asciiLower_eq_cons more
      obtain rfl := score_congr.mp score
      obtain ⟨q, spelled, lower⟩ := ih tail
      obtain ⟨f, u, rfl, second, -⟩ := asciiLower_eq_cons tail
      exact ⟨_, .spaced ((decimal?_congr first).trans some) ((decimal?_congr second).trans next)
        spelled, congrArg (_ :: ·) lower⟩

theorem Sign.recase {s u : Text} {negative : Bool} (h : Sign s negative)
    (same : u.asciiLower = s.asciiLower) : u = s := by
  refine eq_of_asciiLower (fun c mem => ?_) same
  cases h with
  | absent => cases mem
  | plus | minus =>
      rw [List.mem_singleton.mp mem]
      decide

theorem Mantissa.recase {w u ds : Text} {behind : Nat} (h : Mantissa w ds behind)
    (same : u.asciiLower = w.asciiLower) : u = w := by
  refine eq_of_asciiLower ?_ same
  cases h with
  | whole digits => exact digits_caseless digits
  | pointed digits more =>
      rw [List.forall_mem_append, List.forall_mem_cons]
      exact ⟨digits_caseless digits, by decide, digits_caseless more⟩

theorem exponentLetter_congr {c d : CodePoint} (same : d.asciiLower = c.asciiLower)
    (h : c = 'e' ∨ c = 'E') : d = 'e' ∨ d = 'E' := by
  have letter : c.asciiLower.val = 0x65 := by
    rcases h with rfl | rfl <;> decide
  have value := d.val_asciiLower
  rw [same, letter] at value
  have named : d.val = 0x65 ∨ d.val = 0x45 := by
    split at value <;> omega
  exact named.imp Fin.ext Fin.ext

theorem Exponent.recase {u v : Text} {x : Int} (h : Exponent u x)
    (same : v.asciiLower = u.asciiLower) : Exponent v x := by
  cases h with
  | absent =>
      rw [List.map_eq_nil_iff.mp same]
      exact .absent
  | given letter sign digits some =>
      obtain ⟨d, v, rfl, first, behind⟩ := asciiLower_eq_cons same
      obtain ⟨s, ds, rfl, head, tail⟩ := asciiLower_eq_append behind
      rw [sign.recase head, eq_of_asciiLower (digits_caseless digits) tail]
      exact .given (exponentLetter_congr first letter) sign digits some

theorem Plain.recase {p q : Text} {m : Meaning} (h : Plain p m)
    (same : q.asciiLower = p.asciiLower) : Plain q m := by
  cases h with
  | decimal sign mantissa exponent =>
      obtain ⟨s, q, rfl, front, behind⟩ := asciiLower_eq_append same
      obtain ⟨w, u, rfl, middle, back⟩ := asciiLower_eq_append behind
      rw [sign.recase front, mantissa.recase middle]
      exact .decimal sign mantissa (exponent.recase back)
  | infinite sign name =>
      obtain ⟨s, t, rfl, front, back⟩ := asciiLower_eq_append same
      rw [sign.recase front]
      exact .infinite sign (back ▸ name)
  | nan sign name =>
      obtain ⟨s, t, rfl, front, back⟩ := asciiLower_eq_append same
      rw [sign.recase front]
      exact .nan sign (back ▸ name)

/-- The case of letters does not count. -/
theorem Numeral.recase {t u : Text} {m : Meaning} (h : Numeral t m)
    (same : u.asciiLower = t.asciiLower) : Numeral u m := by
  obtain ⟨p, spelled, plain⟩ := h
  obtain ⟨q, spelled', lower⟩ := spelled.recase same
  exact ⟨q, spelled', plain.recase lower⟩

/-- The reader accepts the texts that name a number, with blanks around, and no others. -/
theorem real?_eq_some {t : Text} {x : Binary64} :
    real? t = some x ↔ ∃ m, Numeral (trim t) m ∧ x = m.nearest := by
  rw [real?_eq, Option.bind_eq_some_iff]
  constructor
  · rintro ⟨p, dropped, read⟩
    obtain ⟨m, plain, rfl⟩ := readPlain_eq_some.mp read
    exact ⟨m, ⟨p, drop_eq_some.mp dropped, plain⟩, rfl⟩
  · rintro ⟨m, ⟨p, spelled, plain⟩, rfl⟩
    exact ⟨p, drop_eq_some.mpr spelled, readPlain_eq_some.mpr ⟨m, plain, rfl⟩⟩

/-! ## What stands in no number -/

theorem Spelled.mem {t p : Text} (h : Spelled t p) {c : CodePoint} (mem : c ∈ t)
    (none : c.decimal? = none) (other : c ≠ CodePoint.ofChar '_') : c ∈ p := by
  induction h with
  | done => cases mem
  | digit some rest ih =>
      rcases List.mem_cons.mp mem with rfl | later
      · cases none.symm.trans some
      · exact List.mem_cons_of_mem _ (ih later)
  | mark _ _ rest ih =>
      rcases List.mem_cons.mp mem with rfl | later
      · exact List.mem_cons_self
      · exact List.mem_cons_of_mem _ (ih later)
  | spaced some next rest ih =>
      rcases List.mem_cons.mp mem with rfl | later
      · cases none.symm.trans some
      · rcases List.mem_cons.mp later with rfl | later
        · exact absurd rfl other
        · exact List.mem_cons_of_mem _ (ih later)

/-- The characters of plain numbers: digits, letters, signs and points. -/
def Ordinary (c : CodePoint) : Prop :=
  c.isAsciiDigit = true ∨ c.isAsciiLetter = true ∨ c = '+' ∨ c = '-' ∨ c = '.'

instance (c : CodePoint) : Decidable (Ordinary c) := inferInstanceAs (Decidable (_ ∨ _))

theorem Sign.ordinary {s : Text} {negative : Bool} (h : Sign s negative) : ∀ c ∈ s, Ordinary c := by
  intro c mem
  cases h with
  | absent => cases mem
  | plus | minus =>
      rw [List.mem_singleton.mp mem]
      decide

theorem Mantissa.ordinary {w ds : Text} {behind : Nat} (h : Mantissa w ds behind) :
    ∀ c ∈ w, Ordinary c := by
  cases h with
  | whole digits => exact fun c mem => .inl (digits c mem)
  | pointed digits more =>
      rw [List.forall_mem_append, List.forall_mem_cons]
      exact ⟨fun c mem => .inl (digits c mem), by decide, fun c mem => .inl (more c mem)⟩

theorem Exponent.ordinary {u : Text} {x : Int} (h : Exponent u x) : ∀ c ∈ u, Ordinary c := by
  cases h with
  | absent => exact List.forall_mem_nil _
  | given letter sign digits =>
      rw [List.forall_mem_cons, List.forall_mem_append]
      refine ⟨?_, sign.ordinary, fun c mem => .inl (digits c mem)⟩
      rcases letter with rfl | rfl <;> decide

theorem Named.ordinary {t : Text} (h : Named t) : ∀ c ∈ t, Ordinary c := by
  intro c mem
  have small : c.asciiLower ∈ t.asciiLower := List.mem_map_of_mem mem
  have letters : (["inf", "infinity", "nan"] : List Text).all
      (fun name => name.all CodePoint.isAsciiLetter) = true := by decide
  have letter : c.asciiLower.isAsciiLetter = true := by
    have among : t.asciiLower ∈ (["inf", "infinity", "nan"] : List Text) := by
      rcases h with name | name | name <;> simp [name]
    exact List.all_eq_true.mp (List.all_eq_true.mp letters _ among) _ small
  exact .inr (.inl (c.isAsciiLetter_asciiLower.symm.trans letter))

theorem Plain.ordinary {p : Text} {m : Meaning} (h : Plain p m) : ∀ c ∈ p, Ordinary c := by
  cases h with
  | decimal sign mantissa exponent =>
      rw [List.forall_mem_append, List.forall_mem_append]
      exact ⟨sign.ordinary, mantissa.ordinary, exponent.ordinary⟩
  | infinite sign name =>
      exact List.forall_mem_append.mpr ⟨sign.ordinary, Named.ordinary (name.imp_right .inl)⟩
  | nan sign name =>
      exact List.forall_mem_append.mpr ⟨sign.ordinary, Named.ordinary (.inr (.inr name))⟩

/-- An odd character stands in no number. -/
theorem Numeral.not_mem {t : Text} {m : Meaning} (h : Numeral t m) {c : CodePoint}
    (none : c.decimal? = none) (score : c ≠ CodePoint.ofChar '_') (odd : ¬ Ordinary c) : c ∉ t := by
  intro mem
  obtain ⟨p, spelled, plain⟩ := h
  exact odd (plain.ordinary c (spelled.mem mem none score))

/-! ## Numbers greater than zero -/

/-- The meaning is greater than zero, and not so small that zero is the nearest number. -/
def Meaning.Positive : Meaning → Prop
  | .decimal negative digits scale =>
    negative = false ∧ (2 : ℚ) ^ (-1075 : Int) < digits * 10 ^ scale
  | .infinite negative => negative = false
  | .nan => False

/-- A number has as many digits as its magnitude says. -/
theorem width_bounds {n : Nat} (pos : 0 < n) :
    10 ^ (Binary64.width n - 1) ≤ n ∧ n < 10 ^ Binary64.width n := by
  have high := digitsValue_lt (ofNat_isDigits n)
  rw [digitsValue_ofNat] at high
  refine ⟨Nat.not_lt.mp fun less => ?_, high⟩
  cases short : Binary64.width n - 1 with
  | zero =>
      rw [short, pow_zero] at less
      omega
  | succ k =>
      rw [short] at less
      have shorter : Binary64.width n ≤ k + 1 := length_ofNat_le (Nat.succ_pos k) less
      omega

theorem ten_zpow_pos (e : Int) : (0 : ℚ) < 10 ^ e := zpow_pos (by norm_num) e

/-- The magnitude of a decimal, by the number of its digits. -/
theorem scaled_bounds {digits : Nat} (pos : 0 < digits) (scale : Int) :
    (10 : ℚ) ^ ((Binary64.width digits : Int) - 1 + scale) ≤ digits * 10 ^ scale ∧
      (digits : ℚ) * 10 ^ scale < 10 ^ ((Binary64.width digits : Int) + scale) := by
  obtain ⟨low, high⟩ := width_bounds pos
  have some : 0 < Binary64.width digits := List.length_pos_iff.mpr (ofNat_ne_nil digits)
  have ten : (10 : ℚ) ≠ 0 := by norm_num
  constructor
  · rw [zpow_add₀ ten]
    refine mul_le_mul_of_nonneg_right ?_ (ten_zpow_pos scale).le
    rw [show (Binary64.width digits : Int) - 1 = ((Binary64.width digits - 1 : Nat) : Int) by omega,
      zpow_natCast]
    exact_mod_cast low
  · rw [zpow_add₀ ten]
    refine mul_lt_mul_of_pos_right ?_ (ten_zpow_pos scale)
    rw [zpow_natCast]
    exact_mod_cast high

theorem ofDecimal_isPositive {negative : Bool} {digits : Nat} {scale : Int} :
    (Binary64.ofDecimal negative digits scale).isPositive = true ↔
      negative = false ∧ (2 : ℚ) ^ (-1075 : Int) < digits * 10 ^ scale := by
  rw [Binary64.ofDecimal]
  split_ifs with nothing huge tiny fraction
  · have zero : ¬ (2 : ℚ) ^ (-1075 : Int) < digits * 10 ^ scale := by
      rw [nothing, Nat.cast_zero, zero_mul]
      exact (Binary64.two_zpow_pos _).not_gt
    refine iff_of_false ?_ fun h => zero h.2
    simp [Binary64.zero, Binary64.isPositive]
  · have low := (scaled_bounds (Nat.pos_of_ne_zero nothing) scale).1
    have above : (10 : ℚ) ^ (0 : Int) ≤ 10 ^ ((Binary64.width digits : Int) - 1 + scale) :=
      zpow_le_zpow_right₀ (by norm_num) (by omega)
    have small : (2 : ℚ) ^ (-1075 : Int) < 10 ^ (0 : Int) := by
      rw [zpow_zero]
      exact zpow_lt_one_of_neg₀ (by norm_num) (by norm_num)
    have positive := small.trans_le (above.trans low)
    simp only [Binary64.isPositive, Bool.not_eq_true', positive, and_true]
  · have high := (scaled_bounds (Nat.pos_of_ne_zero nothing) scale).2
    have below : (10 : ℚ) ^ ((Binary64.width digits : Int) + scale) ≤ 10 ^ (-331 : Int) :=
      zpow_le_zpow_right₀ (by norm_num) (by omega)
    have small : (10 : ℚ) ^ (-331 : Int) ≤ 2 ^ (-1075 : Int) := by
      have powers : 2 ^ 1075 ≤ 10 ^ 331 := by decide +kernel
      rw [zpow_neg, zpow_neg]
      exact inv_anti₀ (Binary64.two_zpow_pos _) (by exact_mod_cast powers)
    refine iff_of_false ?_ fun h => (high.le.trans (below.trans small)).not_gt h.2
    simp [Binary64.zero, Binary64.isPositive]
  · obtain ⟨k, rfl⟩ : ∃ k : Nat, scale = -k := ⟨(-scale).toNat, by omega⟩
    rw [Binary64.ofRatio_isPositive (Nat.pos_of_ne_zero nothing) (tenPow_pos _), neg_neg,
      Int.toNat_natCast, zpow_neg (10 : ℚ), zpow_natCast, ← div_eq_mul_inv]
    simp [tenPow]
  · obtain ⟨k, rfl⟩ := Int.eq_ofNat_of_zero_le (Int.not_lt.mp fraction)
    rw [Binary64.ofRatio_isPositive (Nat.mul_pos (Nat.pos_of_ne_zero nothing) (tenPow_pos _))
      (by decide), Int.toNat_natCast, zpow_natCast]
    simp [tenPow]

theorem nearest_isPositive (m : Meaning) : m.nearest.isPositive = true ↔ m.Positive := by
  cases m with
  | decimal negative digits scale => exact ofDecimal_isPositive
  | infinite negative => simp [Meaning.nearest, Meaning.Positive, Binary64.isPositive]
  | nan => simp [Meaning.nearest, Meaning.Positive, Binary64.isPositive]

end QueryGateway.Number
