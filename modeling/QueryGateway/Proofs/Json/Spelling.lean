import Mathlib.Data.List.Forall2
import QueryGateway.Proofs.Json.Acceptance
import QueryGateway.Proofs.Json.Room

/-!
# What the writer writes is JSON

Integers, texts, and containers put together from their parts, each with the rule of the grammar
that its written form is built by. Which value the written form denotes depends on the style, so
the statements about containers have it as a parameter: `Conveys` says that a value is written as a
text, and that the text is JSON for what comes out of the value.

The two ways of writing a text differ in one respect. With `plainEscape` every character is there,
itself or as one escape, and the text comes out as it went in. With `asciiEscape` surrogates are
escaped too, each on its own, and two escapes one behind the other may be read as a pair: so a text
comes out with such pairs fused (`Text.paired`). For a text in which no first half stands before a
second one that is the text itself.

What is NOT here: finite floating point numbers. `Proofs.Json.Notation` has them.
-/

namespace QueryGateway

open Text

namespace Json

variable {d : Dialect}

/-! ## Integers -/

theorem whole_ofNat (n : Nat) : Whole (ofNat n) :=
  ⟨⟨ofNat_isDigits n, ofNat_ne_nil n⟩, ofNat_leading⟩

/-- An integer in decimal, its sign apart. -/
theorem ofInt_eq_signed (n : Int) :
    ∃ negative, ofInt n = sign negative ++ ofNat n.natAbs ∧
      signed negative (ofNat n.natAbs) = n := by
  cases n with
  | ofNat n =>
      refine ⟨false, rfl, ?_⟩
      show (digitsValue (ofNat n) : Int) = n
      rw [digitsValue_ofNat]
  | negSucc n =>
      refine ⟨true, rfl, ?_⟩
      show -(digitsValue (ofNat (n + 1)) : Int) = _
      rw [digitsValue_ofNat]
      rfl

theorem scalar_ofInt {n : Int} (lead : within d.maxLead (ofNat n.natAbs).length = true)
    (short : within d.maxDigits (ofNat n.natAbs).length = true) : Scalar d (ofInt n) (.int n) := by
  obtain ⟨negative, text, value⟩ := ofInt_eq_signed n
  have scalar : Scalar d (sign negative ++ ofNat n.natAbs)
      (.int (signed negative (ofNat n.natAbs))) :=
    .int (whole_ofNat _) lead short
  rwa [← text, value] at scalar

theorem integer_eq_ofInt {n : Int} (short : (ofNat n.natAbs).length ≤ maxDigits) :
    integer n = .ok (ofInt n) := by
  rw [integer, if_neg (Nat.not_lt.mpr short)]
  cases n with
  | ofNat n =>
      have sign : ¬ Int.ofNat n < 0 := Int.not_lt.mpr (Int.natCast_nonneg n)
      rw [if_neg sign]
      rfl
  | negSucc n =>
      rw [if_pos (Int.negSucc_lt_zero n)]
      rfl

/-! ## Escapes -/

theorem hexValue?_hexDigit {n : Nat} (h : n < 16) : hexValue? (hexDigit n) = some n := by
  have all : ∀ k : Fin 16, hexValue? (hexDigit k.val) = some k.val := by decide
  exact all ⟨n, h⟩

theorem unitEscape_spells {n : Nat} (h : n < 0x10000) : UnitEscape (unitEscape n) n := by
  have value (k : Nat) : hexValue? (hexDigit (k % 16)) = some (k % 16) :=
    hexValue?_hexDigit (Nat.mod_lt k (by decide))
  have whole : ((n / 16 / 16 / 16 % 16 * 16 + n / 16 / 16 % 16) * 16 + n / 16 % 16) * 16 + n % 16 =
      n := by
    omega
  have escape := UnitEscape.digits (value (n / 16 / 16 / 16)) (value (n / 16 / 16))
    (value (n / 16)) (value n)
  rwa [whole] at escape

theorem UnitEscape.unique {u v x y : Text} {m n : Nat} (hu : UnitEscape u m) (hv : UnitEscape v n)
    (same : u ++ x = v ++ y) : m = n := by
  cases hu with
  | digits ha hb hc hd =>
      cases hv with
      | digits ha' hb' hc' hd' =>
          simp only [List.cons_append, List.nil_append, List.cons.injEq, true_and] at same
          obtain ⟨rfl, rfl, rfl, rfl, -⟩ := same
          cases ha.symm.trans ha'
          cases hb.symm.trans hb'
          cases hc.symm.trans hc'
          cases hd.symm.trans hd'
          rfl

theorem ofNat_val (c : CodePoint) : CodePoint.ofNat c.val = c := Fin.ext (Nat.mod_eq_of_lt c.isLt)

theorem shortEscape?_some {c : CodePoint} {e : Text} (h : shortEscape? c = some e) :
    ∃ letter, e = [CodePoint.ofChar '\\', letter] ∧ (letter, c) ∈ letterEscapes := by
  have control {n : Nat} (hn : n < 0x110000) (same : c.val = n) : c = CodePoint.ofNat n :=
    Fin.ext (same.trans (Nat.mod_eq_of_lt hn).symm)
  have named {p : CodePoint} {escape : Text} (letter : Char) (h : some escape = some e)
      (same : c = p) (form : escape = [CodePoint.ofChar '\\', CodePoint.ofChar letter] ∧
        (CodePoint.ofChar letter, p) ∈ letterEscapes) :
      ∃ letter, e = [CodePoint.ofChar '\\', letter] ∧ (letter, c) ∈ letterEscapes := by
    cases h
    exact ⟨CodePoint.ofChar letter, same ▸ form⟩
  unfold shortEscape? at h
  split at h
  · rename_i same
    exact named '"' h same (by decide)
  split at h
  · rename_i same
    exact named '\\' h same (by decide)
  split at h
  · rename_i same
    exact named 'n' h same (by decide)
  split at h
  · rename_i same
    exact named 'r' h same (by decide)
  split at h
  · rename_i same
    exact named 't' h same (by decide)
  split at h
  · rename_i same
    exact named 'b' h (control (by decide) same) (by decide)
  split at h
  · rename_i same
    exact named 'f' h (control (by decide) same) (by decide)
  · cases h

/-- What has no short escape is neither a quote nor a backslash. -/
theorem shortEscape?_none {c : CodePoint} (h : shortEscape? c = none) :
    c ≠ CodePoint.ofChar '"' ∧ c ≠ CodePoint.ofChar '\\' := by
  constructor
  · rintro rfl
    cases h
  · rintro rfl
    cases h

/-! ## Texts -/

theorem chars_plainEscape (t : Text) : Chars d (t.flatMap plainEscape) t := by
  induction t with
  | nil => exact .nil
  | cons c t ih =>
      rw [List.flatMap_cons, plainEscape]
      cases escape : shortEscape? c with
      | some e =>
          obtain ⟨letter, rfl, known⟩ := shortEscape?_some escape
          exact .letter known ih
      | none =>
          obtain ⟨noQuote, noEscape⟩ := shortEscape?_none escape
          dsimp only
          split
          · rename_i control
            have spelled := unitEscape_spells (show c.val < 0x10000 by omega)
            have plain : ¬ IsHigh c.val ∧ ¬ IsLow c.val := by
              unfold IsHigh IsLow
              omega
            have chars : Chars d _ (CodePoint.ofNat c.val :: t) :=
              .unit spelled plain.1 plain.2 ih
            rw [numberEscape, if_pos (by omega)]
            rwa [ofNat_val] at chars
          · rename_i visible
            exact .plain noQuote noEscape (Nat.not_lt.mp visible) ih

end Json

/-- The text with each first half of a surrogate pair that stands before a second half fused with
it. -/
def Text.paired : Text → Text
  | high :: low :: rest =>
    if Json.IsHigh high.val ∧ Json.IsLow low.val then
      Json.pairPoint high.val low.val :: paired rest
    else high :: paired (low :: rest)
  | [c] => [c]
  | [] => []

/-- No first half of a surrogate pair stands before a second half. -/
def Text.Unpaired (t : Text) : Prop :=
  t.IsChain fun high low => ¬ (Json.IsHigh high.val ∧ Json.IsLow low.val)

instance (t : Text) : Decidable t.Unpaired := inferInstanceAs (Decidable (List.IsChain _ t))

theorem Text.paired_of_unpaired {t : Text} (h : t.Unpaired) : t.paired = t := by
  fun_induction Text.paired t with
  | case1 high low rest pair _ => exact absurd pair (List.isChain_cons_cons.mp h).1
  | case2 high low rest _ ih => rw [ih (List.isChain_cons_cons.mp h).2]
  | case3 => rfl
  | case4 => rfl

/-- What comes out without characters beyond the basic plane went in as it came out. -/
theorem Text.paired_eq_self {t : Text} (h : ∀ c ∈ t.paired, c.val < 0x10000) : t.paired = t := by
  fun_induction Text.paired t with
  | case1 high low rest pair _ =>
      have small := h _ List.mem_cons_self
      obtain ⟨⟨_, _⟩, _, _⟩ := pair
      rw [Json.pairPoint] at small
      have value : (CodePoint.ofNat (0x10000 + (high.val - 0xD800) * 0x400 + (low.val - 0xDC00))).val
          = 0x10000 + (high.val - 0xD800) * 0x400 + (low.val - 0xDC00) :=
        Nat.mod_eq_of_lt (by omega)
      omega
  | case2 high low rest _ ih => rw [ih fun c mem => h c (List.mem_cons_of_mem _ mem)]
  | case3 => rfl
  | case4 => rfl

/-- Unicode text has no halves of surrogate pairs at all. -/
theorem Text.IsScalar.unpaired {t : Text} (h : t.IsScalar) : t.Unpaired := by
  have whole : ∀ c ∈ t, ¬ Json.IsHigh c.val := by
    rintro c mem ⟨least, most⟩
    have none := h c mem
    simp only [CodePoint.isSurrogate, Bool.and_eq_false_iff, decide_eq_false_iff_not] at none
    omega
  refine List.Pairwise.isChain (List.pairwise_of_forall_mem_list fun high mem low _ pair => ?_)
  exact whole high mem pair.1

namespace Json

variable {d : Dialect}

/-- An escape by number in front of a written text is one of the first character of the text. -/
theorem escape_of_first {e : CodePoint} {rest v : Text} {m : Nat} (h : UnitEscape v m)
    (front : v <+: asciiEscape e ++ rest) (low : IsLow m) : IsLow e.val := by
  obtain ⟨x, rfl⟩ := h.marked
  obtain ⟨more, whole⟩ := front
  rw [asciiEscape] at whole
  cases escape : shortEscape? e with
  | some short =>
      obtain ⟨letter, rfl, known⟩ := shortEscape?_some escape
      rw [escape] at whole
      obtain ⟨-, behind⟩ := List.cons.inj whole
      obtain ⟨rfl, -⟩ := List.cons.inj behind
      exact absurd known letterEscapes_ne_u
  | none =>
      rw [escape] at whole
      dsimp only at whole
      split at whole
      · obtain ⟨rfl, -⟩ := List.cons.inj whole
        exact absurd rfl (shortEscape?_none escape).2
      · rw [numberEscape] at whole
        split at whole
        · rename_i small
          have same := h.unique (unitEscape_spells small) whole
          exact same ▸ low
        · rename_i large
          have bound := e.isLt
          rw [List.append_assoc] at whole
          have same := h.unique (unitEscape_spells (by omega)) whole
          unfold IsLow at low
          omega

theorem asciiEscape_surrogate {c : CodePoint} (h : 0xD800 ≤ c.val ∧ c.val ≤ 0xDFFF) :
    asciiEscape c = unitEscape c.val := by
  have long : shortEscape? c = none := by
    cases escape : shortEscape? c with
    | none => rfl
    | some e =>
        obtain ⟨letter, -, known⟩ := shortEscape?_some escape
        have small : c.val < 0x80 := letterEscapes_ascii known
        omega
  have notPrintable : c.isPrintableAscii = false := by
    simp only [CodePoint.isPrintableAscii, Bool.and_eq_false_iff, decide_eq_false_iff_not]
    omega
  rw [asciiEscape, long]
  dsimp only
  rw [notPrintable, if_neg Bool.false_ne_true, numberEscape, if_pos (by omega)]

/-- A character in front, unless it is a first half and the text behind begins with a second. -/
theorem chars_asciiEscape_cons (lone : d.loneSurrogates = true) {c : CodePoint} {w t : Text}
    (h : Chars d w t)
    (alone : IsHigh c.val → ∀ {v m}, UnitEscape v m → v <+: w → ¬ IsLow m) :
    Chars d (asciiEscape c ++ w) (c :: t) := by
  rw [asciiEscape]
  cases escape : shortEscape? c with
  | some e =>
      obtain ⟨letter, rfl, known⟩ := shortEscape?_some escape
      exact .letter known h
  | none =>
      obtain ⟨noQuote, noEscape⟩ := shortEscape?_none escape
      dsimp only
      split
      · rename_i printable
        simp only [CodePoint.isPrintableAscii, Bool.and_eq_true, decide_eq_true_eq] at printable
        exact .plain noQuote noEscape printable.1 h
      · rw [numberEscape]
        split
        · rename_i small
          have spelled := unitEscape_spells small
          have point := ofNat_val c
          by_cases high : IsHigh c.val
          · have chars := Chars.half lone spelled (.inr ⟨high, alone high⟩) h
            rwa [point] at chars
          · by_cases low : IsLow c.val
            · have chars := Chars.half lone spelled (.inl low) h
              rwa [point] at chars
            · have chars := Chars.unit spelled high low h
              rwa [point] at chars
        · rename_i large
          have bound := c.isLt
          have first := unitEscape_spells (n := 0xD800 + (c.val - 0x10000) / 0x400) (by omega)
          have second := unitEscape_spells (n := 0xDC00 + (c.val - 0x10000) % 0x400) (by omega)
          have chars := Chars.pair first second (by unfold IsHigh; omega) (by unfold IsLow; omega) h
          have point : pairPoint (0xD800 + (c.val - 0x10000) / 0x400)
              (0xDC00 + (c.val - 0x10000) % 0x400) = c := by
            rw [pairPoint]
            have whole : 0x10000 + (0xD800 + (c.val - 0x10000) / 0x400 - 0xD800) * 0x400 +
                (0xDC00 + (c.val - 0x10000) % 0x400 - 0xDC00) = c.val := by
              omega
            rw [whole, ofNat_val]
          rw [point] at chars
          rwa [List.append_assoc]

theorem chars_asciiEscape (lone : d.loneSurrogates = true) (t : Text) :
    Chars d (t.flatMap asciiEscape) t.paired := by
  fun_induction Text.paired t with
  | case1 high low rest pair ih =>
      have first : asciiEscape high = unitEscape high.val :=
        asciiEscape_surrogate (by have := pair.1.1; have := pair.1.2; omega)
      have second : asciiEscape low = unitEscape low.val :=
        asciiEscape_surrogate (by have := pair.2.1; have := pair.2.2; omega)
      rw [List.flatMap_cons, List.flatMap_cons, first, second]
      have small : high.val < 0x10000 ∧ low.val < 0x10000 := by
        have := pair.1.2
        have := pair.2.2
        omega
      exact .pair (unitEscape_spells small.1) (unitEscape_spells small.2) pair.1 pair.2 ih
  | case2 high low rest alone ih =>
      rw [List.flatMap_cons]
      refine chars_asciiEscape_cons lone ih fun isHigh v m escape front isLow => ?_
      rw [List.flatMap_cons] at front
      exact alone ⟨isHigh, escape_of_first escape front isLow⟩
  | case3 c =>
      refine chars_asciiEscape_cons lone .nil fun _ v m escape front _ => ?_
      obtain ⟨x, rfl⟩ := escape.marked
      exact nomatch List.prefix_nil.mp front
  | case4 => exact .nil

/-! ## Containers -/

/-- A mark between parts, perhaps with white space behind it. -/
inductive Mark (c : CodePoint) : Text → Prop
  | gap {b : Text} : Blank b → Mark c (c :: b)

/-- A style with the marks of JSON. -/
structure Style.Regular (style : Style) : Prop where
  itemMark : Mark ',' style.itemMark
  nameMark : Mark ':' style.nameMark

theorem Style.regular_response : Style.response.Regular := ⟨.gap blank_nil, .gap blank_nil⟩

theorem Style.regular_envelope : Style.envelope.Regular := ⟨.gap blank_nil, .gap blank_nil⟩

theorem blank_space : Blank " " := by
  intro c mem
  rw [List.mem_singleton.mp mem]
  rfl

theorem Style.regular_record : Style.record.Regular := ⟨.gap blank_space, .gap blank_space⟩

/-- A written name and a written value. -/
inductive Spells (d : Dialect) (depth : Nat) : Text → Text × Value → Prop
  | member {l w name : Text} {v : Value} : Label d l name → Val d depth w v →
      Spells d depth (l ++ w) (name, v)

section Containers
variable {depth : Nat} {style : Style}

theorem blank_append {a b : Text} (ha : Blank a) (hb : Blank b) : Blank (a ++ b) :=
  List.forall_mem_append.mpr ⟨ha, hb⟩

/-- White space in front of items belongs to the first of them. -/
theorem Elements.indent {b w : Text} {vs : List Value} (blank : Blank b)
    (h : Elements d depth w vs) : Elements d depth (b ++ w) vs := by
  cases h with
  | last before value behind =>
      rw [← List.append_assoc]
      exact .last (blank_append blank before) value behind
  | more before value behind later =>
      rw [← List.append_assoc]
      exact .more (blank_append blank before) value behind later

theorem Label.indent {b l name : Text} (blank : Blank b) (h : Label d l name) :
    Label d (b ++ l) name := by
  cases h with
  | quoted before chars behind gap =>
      rw [← List.append_assoc]
      exact .quoted (blank_append blank before) chars behind gap

theorem Pairs.indent {b w : Text} {ms : Members} (blank : Blank b) (h : Pairs d depth w ms) :
    Pairs d depth (b ++ w) ms := by
  cases h with
  | last label value behind =>
      rw [← List.append_assoc]
      exact .last (label.indent blank) value behind
  | more label value behind later =>
      rw [← List.append_assoc]
      exact .more (label.indent blank) value behind later

theorem elements_join {mark t : Text} (hm : Mark ',' mark) {ts : List Text} {v : Value}
    {vs : List Value} (h : List.Forall₂ (Val d depth) (t :: ts) (v :: vs)) :
    Elements d depth (join mark (t :: ts)) (v :: vs) := by
  induction ts generalizing t v vs with
  | nil =>
      obtain ⟨first, later⟩ := List.forall₂_cons.mp h
      cases later
      have elements := Elements.last blank_nil first blank_nil
      rwa [List.nil_append, List.append_nil] at elements
  | cons u ts ih =>
      obtain ⟨first, later⟩ := List.forall₂_cons.mp h
      cases vs with
      | nil => cases later
      | cons w vs =>
          cases hm with
          | gap blank =>
          have elements := Elements.more blank_nil first blank_nil ((ih later).indent blank)
          rw [List.nil_append, List.nil_append] at elements
          show Elements d depth (t ++ _ ++ join _ (u :: ts)) (v :: w :: vs)
          rwa [List.append_assoc]

theorem val_brackets (hs : style.Regular) {ts : List Text} {vs : List Value}
    (h : List.Forall₂ (Val d depth) ts vs) :
    Val d (depth + 1) (brackets style ts) (.list vs) := by
  rw [brackets]
  cases h with
  | nil => exact .emptyList blank_nil
  | cons first later => exact .list (elements_join hs.itemMark (.cons first later))

theorem label_quoted {mark n name : Text} (hm : Mark ':' mark) (chars : Chars d n name) :
    Label d ("\"" ++ n ++ "\"" ++ mark) name := by
  cases hm with
  | @gap b blank =>
  have label := Label.quoted blank_nil chars blank_nil blank
  have text : ("\"" ++ n ++ "\"" ++ CodePoint.ofChar ':' :: b : Text) =
      [] ++ CodePoint.ofChar '"' :: (n ++ CodePoint.ofChar '"' :: ([] ++ CodePoint.ofChar ':' :: b)) :=
    congrArg (_ :: ·) (List.append_assoc ..)
  rw [text]
  exact label

theorem pairs_join {mark t : Text} (hm : Mark ',' mark) {ts : List Text} {m : Text × Value}
    {ms : Members} (h : List.Forall₂ (Spells d depth) (t :: ts) (m :: ms)) :
    Pairs d depth (join mark (t :: ts)) (m :: ms) := by
  induction ts generalizing t m ms with
  | nil =>
      obtain ⟨⟨label, value⟩, later⟩ := List.forall₂_cons.mp h
      cases later
      have pairs := Pairs.last label value blank_nil
      rwa [List.append_nil] at pairs
  | cons u ts ih =>
      obtain ⟨⟨label, value⟩, later⟩ := List.forall₂_cons.mp h
      cases ms with
      | nil => cases later
      | cons m ms =>
          cases hm with
          | gap blank =>
          have pairs := Pairs.more label value blank_nil ((ih later).indent blank)
          rw [List.nil_append, ← List.append_assoc] at pairs
          show Pairs d depth (_ ++ _ ++ join _ (u :: ts)) _
          rwa [List.append_assoc]

theorem val_braces (hs : style.Regular) {ts : List Text} {ms : Members}
    (h : List.Forall₂ (Spells d depth) ts ms) :
    Val d (depth + 1) (braces style ts) (Value.object (resolve ms)) := by
  rw [braces]
  cases h with
  | nil => exact .emptyTable blank_nil
  | cons first later => exact .table (pairs_join hs.itemMark (.cons first later))

end Containers

/-! ## Many texts at once -/

section Lists
variable {α : Type} {as : List α}

/-- What holds of each member of a list with some text holds with a list of texts. -/
theorem exists_texts {r : α → Text → Prop} (h : ∀ a ∈ as, ∃ t, r a t) :
    ∃ ts, List.Forall₂ r as ts := by
  induction as with
  | nil => exact ⟨[], .nil⟩
  | cons a rest ih =>
      obtain ⟨t, first⟩ := h a List.mem_cons_self
      obtain ⟨ts, later⟩ := ih fun b mem => h b (List.mem_cons_of_mem _ mem)
      exact ⟨t :: ts, .cons first later⟩

/-- If it holds with a text at some depth, and then at every greater depth, it holds with all texts
at one depth. -/
theorem exists_texts_deep {r : Nat → α → Text → Prop}
    (mono : ∀ {depth deeper a t}, r depth a t → depth ≤ deeper → r deeper a t)
    (h : ∀ a ∈ as, ∃ depth t, r depth a t) : ∃ depth ts, List.Forall₂ (r depth) as ts := by
  induction as with
  | nil => exact ⟨0, [], .nil⟩
  | cons a rest ih =>
      obtain ⟨depth, t, first⟩ := h a List.mem_cons_self
      obtain ⟨depth', ts, later⟩ := ih fun b mem => h b (List.mem_cons_of_mem _ mem)
      exact ⟨max depth depth', t :: ts, .cons (mono first (Nat.le_max_left ..))
        (later.imp fun _ _ h => mono h (Nat.le_max_right ..))⟩

end Lists

/-! ## Values with what comes out of them -/

/-- A value is written as this text, and the text is JSON for what comes out of the value. -/
structure Conveys (style : Style) (d : Dialect) (out : Value → Value) (depth : Nat) (v : Value)
    (t : Text) : Prop where
  written : write style v = .ok t
  denotes : Val d depth t (out v)

/-- A member is written as its name and its value. -/
inductive ConveysMember (style : Style) (d : Dialect) (outName : Text → Text)
    (out : Value → Value) (depth : Nat) : Text × Value → Text → Prop
  | member {name w : Text} {v : Value} :
      Json.name style (.text name) = .ok (quote style.escape name) →
      Chars d (name.flatMap style.escape) (outName name) → Conveys style d out depth v w →
      ConveysMember style d outName out depth (name, v)
        (quote style.escape name ++ style.nameMark ++ w)

section Conveyed
variable {style : Style} {d : Dialect} {outName : Text → Text} {out : Value → Value}
  {depth : Nat} {ts : List Text}

theorem Conveys.mono {deeper : Nat} {v : Value} {t : Text} (h : Conveys style d out depth v t)
    (le : depth ≤ deeper) : Conveys style d out deeper v t :=
  ⟨h.written, h.denotes.mono (.inl le)⟩

theorem ConveysMember.mono {deeper : Nat} {m : Text × Value} {t : Text}
    (h : ConveysMember style d outName out depth m t) (le : depth ≤ deeper) :
    ConveysMember style d outName out deeper m t := by
  cases h with
  | member named chars value => exact .member named chars (value.mono le)

theorem conveys_named {u v : Value} {w : String} (comes : out v = u)
    (known : (Text.ofString w, u) ∈ names) (written : write style v = .ok w) :
    Conveys style d out depth v w := by
  refine ⟨written, ?_⟩
  rw [comes]
  exact .scalar (.named known)

theorem conveys_bool {b : Bool} (comes : out (.bool b) = .bool b) :
    ∃ t, Conveys style d out depth (.bool b) t := by
  cases b with
  | true => exact ⟨"true", conveys_named comes (.tail _ (.head _)) rfl⟩
  | false => exact ⟨"false", conveys_named comes (.tail _ (.tail _ (.head _))) rfl⟩

theorem conveys_int {n : Int} (comes : out (.int n) = .int n)
    (short : (ofNat n.natAbs).length ≤ maxDigits) :
    Conveys style .unlimited out depth (.int n) (ofInt n) := by
  refine ⟨integer_eq_ofInt short, ?_⟩
  rw [comes]
  exact .scalar (scalar_ofInt rfl rfl)

/-- What is written as an escaped text comes out as the text with its halves fused. -/
theorem conveys_text {v : Value} {t : Text} (lone : d.loneSurrogates = true)
    (comes : out v = .text t.paired) (written : write style v = .ok (quote asciiEscape t)) :
    Conveys style d out depth v (quote asciiEscape t) := by
  refine ⟨written, ?_⟩
  rw [comes]
  exact .text (chars_asciiEscape lone t)

theorem writeItems_conveys {items : List Value}
    (h : List.Forall₂ (Conveys style d out depth) items ts) :
    writeItems style items = .ok ts ∧ List.Forall₂ (Val d depth) ts (items.map out) := by
  induction h with
  | nil => exact ⟨rfl, .nil⟩
  | cons first _ ih =>
      obtain ⟨written, values⟩ := ih
      refine ⟨?_, .cons first.denotes values⟩
      rw [writeItems_cons, first.written, written]
      rfl

theorem conveys_list (hs : style.Regular) {items : List Value}
    (comes : out (.list items) = .list (items.map out))
    (h : List.Forall₂ (Conveys style d out depth) items ts) :
    Conveys style d out (depth + 1) (.list items) (brackets style ts) := by
  obtain ⟨written, values⟩ := writeItems_conveys h
  refine ⟨?_, ?_⟩
  · rw [write_list, written]
    rfl
  · rw [comes]
    exact val_brackets hs values

theorem writeMembers_conveys (hs : style.Regular) {members : Members}
    (h : List.Forall₂ (ConveysMember style d outName out depth) members ts) :
    writeMembers style (members.map fun (k, v) => (Value.text k, v)) = .ok ts ∧
      List.Forall₂ (Spells d depth) ts (members.map fun m => (outName m.1, out m.2)) := by
  induction h with
  | nil => exact ⟨rfl, .nil⟩
  | @cons m t rest ts first _ ih =>
      obtain ⟨written, pairs⟩ := ih
      cases first with
      | @member name w v named chars value =>
      refine ⟨?_, .cons (.member (label_quoted hs.nameMark chars) value.denotes) pairs⟩
      rw [List.map_cons, writeMembers_cons, named, value.written, written]
      rfl

theorem conveys_object (hs : style.Regular) {members : Members}
    (comes : out (Value.object members) =
      Value.object (resolve (members.map fun m => (outName m.1, out m.2))))
    (h : List.Forall₂ (ConveysMember style d outName out depth) members ts) :
    Conveys style d out (depth + 1) (Value.object members) (braces style ts) := by
  obtain ⟨written, pairs⟩ := writeMembers_conveys hs h
  refine ⟨?_, ?_⟩
  · rw [Value.object, write_map, written]
    rfl
  · rw [comes]
    exact val_braces hs pairs

/-- Items that are conveyed, each at its own depth, are conveyed as a list. -/
theorem conveys_list_deep (hs : style.Regular) {items : List Value}
    (comes : out (.list items) = .list (items.map out))
    (h : ∀ v ∈ items, ∃ depth t, Conveys style d out depth v t) :
    ∃ depth t, Conveys style d out depth (.list items) t := by
  obtain ⟨depth, ts, all⟩ := exists_texts_deep (r := Conveys style d out) Conveys.mono h
  exact ⟨_, _, conveys_list hs comes all⟩

/-- Values that are conveyed, each at its own depth, are conveyed as the members of a table. -/
theorem conveys_object_deep (hs : style.Regular) (ascii : style.escape = asciiEscape)
    (wide : style.inUtf8 = false) (lone : d.loneSurrogates = true) {members : Members}
    (comes : out (Value.object members) =
      Value.object (resolve (members.map fun m => (m.1.paired, out m.2))))
    (h : ∀ m ∈ members, ∃ depth t, Conveys style d out depth m.2 t) :
    ∃ depth t, Conveys style d out depth (Value.object members) t := by
  have each : ∀ m ∈ members, ∃ depth t, ConveysMember style d Text.paired out depth m t := by
    intro m mem
    obtain ⟨depth, w, value⟩ := h m mem
    exact ⟨depth, _, .member (name_text (.inl wide)) (ascii ▸ chars_asciiEscape lone m.1) value⟩
  obtain ⟨depth, ts, all⟩ :=
    exists_texts_deep (r := ConveysMember style d Text.paired out) ConveysMember.mono each
  exact ⟨_, _, conveys_object hs comes all⟩

/-- A tuple is written like a list, and a list comes out. -/
theorem Conveys.tuple {items : List Value} {t : Text} (comes : out (.tuple items) = out (.list items))
    (h : Conveys style d out depth (.list items) t) : Conveys style d out depth (.tuple items) t := by
  refine ⟨h.written, ?_⟩
  rw [comes]
  exact h.denotes

theorem Conveys.read? {v : Value} {t : Text} (h : Conveys style d out depth v t)
    (room : within d.maxDepth depth = true) : read? d t = some (out v) := by
  have document := Denotes.document room blank_nil h.denotes blank_nil
  rw [List.nil_append, List.append_nil] at document
  exact read?_eq_some_iff.mpr document

end Conveyed

end Json

end QueryGateway
