import QueryGateway.Proofs.Text.Case
import QueryGateway.Proofs.Text.Words

/-!
# Pieces between separators

A text is cut at every occurrence of a separator, and the pieces are what stands between two of them:
texts with a separator between them have the pieces of both (`pieces_append_sep`), and a text without
a separator is a single piece (`pieces_of_not_mem`). Everything else about pieces is an induction over
the occurrences, `pieces_induction`.

Blanks at the ends of a text do not count once it is trimmed. Then blanks next to a separator do not
count in a text that is cut there and trimmed piece by piece: `Ignores.pieces` adds one separator to
those next to which blanks are ignored.
-/

namespace QueryGateway.Text

variable {sep : CodePoint}

/-! ## Cutting at a separator -/

theorem pieces_ne_nil (sep : CodePoint) (t : Text) : pieces sep t ≠ [] := by
  cases t with
  | nil => exact List.cons_ne_nil _ _
  | cons c rest =>
      rw [pieces]
      split
      · exact List.cons_ne_nil _ _
      · split <;> exact List.cons_ne_nil _ _

theorem pieces_cons_sep (sep : CodePoint) (t : Text) :
    pieces sep (sep :: t) = [] :: pieces sep t := by
  obtain ⟨first, more, split⟩ := List.exists_cons_of_ne_nil (pieces_ne_nil sep t)
  rw [pieces, split]
  exact if_pos rfl

theorem pieces_cons {c : CodePoint} (other : c ≠ sep) {t first : Text} {more : List Text}
    (split : pieces sep t = first :: more) : pieces sep (c :: t) = (c :: first) :: more := by
  rw [pieces, split]
  exact if_neg other

theorem pieces_of_not_mem {t : Text} (h : sep ∉ t) : pieces sep t = [t] := by
  induction t with
  | nil => rfl
  | cons c t ih =>
      have other : c ≠ sep := fun same => h (same ▸ List.mem_cons_self)
      exact pieces_cons other (ih fun mem => h (List.mem_cons_of_mem c mem))

theorem pieces_append_sep (sep : CodePoint) (x y : Text) :
    pieces sep (x ++ sep :: y) = pieces sep x ++ pieces sep y := by
  induction x with
  | nil => exact pieces_cons_sep sep y
  | cons c x ih =>
      obtain ⟨first, more, split⟩ := List.exists_cons_of_ne_nil (pieces_ne_nil sep x)
      rw [split] at ih
      by_cases same : c = sep
      · subst same
        rw [List.cons_append, pieces_cons_sep, pieces_cons_sep, ih, split]
        rfl
      · rw [List.cons_append, pieces_cons same ih, pieces_cons same split]
        rfl

/-- What holds of texts without a separator, and is kept when such a text and a separator are put in
front, holds of all texts. -/
theorem pieces_induction (sep : CodePoint) {motive : Text → Prop}
    (whole : ∀ t, sep ∉ t → motive t)
    (front : ∀ w rest, sep ∉ w → motive rest → motive (w ++ sep :: rest)) (t : Text) :
    motive t := by
  induction n : t.length using Nat.strongRecOn generalizing t with
  | ind n ih =>
      by_cases h : sep ∈ t
      · obtain ⟨w, rest, rfl, first⟩ := List.eq_append_cons_of_mem h
        refine front w rest first (ih rest.length ?_ rest rfl)
        rw [← n, List.length_append, List.length_cons]
        omega
      · exact whole t h

theorem not_mem_of_mem_pieces {t p : Text} (h : p ∈ pieces sep t) : sep ∉ p := by
  induction t using pieces_induction sep with
  | whole t free =>
      rw [pieces_of_not_mem free, List.mem_singleton] at h
      rwa [h]
  | front w rest free ih =>
      rw [pieces_append_sep, pieces_of_not_mem free, List.singleton_append, List.mem_cons] at h
      rcases h with rfl | later
      · exact free
      · exact ih later

/-- Cutting goes along with a change of characters that makes no separator and spoils none. -/
theorem pieces_map {f : CodePoint → CodePoint} (kept : ∀ c, f c = sep ↔ c = sep) (t : Text) :
    pieces sep (t.map f) = (pieces sep t).map (List.map f) := by
  have free {w : Text} (h : sep ∉ w) : sep ∉ w.map f := by
    intro mem
    obtain ⟨c, mem, same⟩ := List.mem_map.mp mem
    exact h ((kept c).mp same ▸ mem)
  induction t using pieces_induction sep with
  | whole t h => rw [pieces_of_not_mem h, pieces_of_not_mem (free h), List.map_singleton]
  | front w rest h ih =>
      rw [List.map_append, List.map_cons, (kept sep).mpr rfl, pieces_append_sep, pieces_append_sep,
        pieces_of_not_mem h, pieces_of_not_mem (free h), ih, List.map_append, List.map_singleton]

theorem pieces_eq_singleton {t p : Text} : pieces sep t = [p] ↔ sep ∉ t ∧ t = p := by
  constructor
  · intro alone
    by_cases h : sep ∈ t
    · obtain ⟨x, y, rfl, first⟩ := List.eq_append_cons_of_mem h
      rw [pieces_append_sep, pieces_of_not_mem first, List.singleton_append] at alone
      exact absurd (List.cons.inj alone).2 (pieces_ne_nil sep y)
    · rw [pieces_of_not_mem h] at alone
      exact ⟨h, List.singleton_inj.mp alone⟩
  · rintro ⟨free, rfl⟩
    exact pieces_of_not_mem free

/-- A text that is cut once has been cut at its first separator. -/
theorem pieces_cut (sep : CodePoint) (t : Text) :
    pieces sep t = (cut sep t).1 :: ((cut sep t).2.map (pieces sep)).getD [] := by
  by_cases h : sep ∈ t
  · obtain ⟨w, rest, rfl, first⟩ := List.eq_append_cons_of_mem h
    rw [cut_append first, pieces_append_sep, pieces_of_not_mem first]
    rfl
  · rw [cut_of_not_mem h, pieces_of_not_mem h]
    rfl

/-- If the case of letters does not count in the pieces, it does not count in the whole, as long as
the separator is no letter. -/
theorem map_pieces_asciiLower {α : Type} {f : Text → α} (same : ∀ t : Text, f t.asciiLower = f t)
    (mark : sep.isAsciiLetter = false) (t : Text) :
    (pieces sep t.asciiLower).map f = (pieces sep t).map f := by
  rw [asciiLower, pieces_map fun c => CodePoint.asciiLower_eq_iff mark, List.map_map]
  exact List.map_congr_left fun p _ => same p

/-! ## Trimming -/

theorem trimStart_blanks_append {b : Text} (blank : Blanks b) (t : Text) :
    trimStart (b ++ t) = trimStart t :=
  List.dropWhile_append_of_pos blank

theorem trimEnd_append_blanks {b : Text} (blank : Blanks b) (t : Text) :
    trimEnd (t ++ b) = trimEnd t := by
  have reversed : Blanks b.reverse := fun c mem => blank c (List.mem_reverse.mp mem)
  rw [trimEnd, List.reverse_append, trimStart_blanks_append reversed, trimEnd]

theorem trimStart_split (t : Text) : ∃ b, Blanks b ∧ t = b ++ trimStart t :=
  ⟨t.takeWhile CodePoint.isBlank, fun c mem => List.all_eq_true.mp List.all_takeWhile c mem,
    List.takeWhile_append_dropWhile.symm⟩

theorem trimEnd_split (t : Text) : ∃ b, Blanks b ∧ t = trimEnd t ++ b := by
  obtain ⟨b, blank, split⟩ := trimStart_split t.reverse
  refine ⟨b.reverse, fun c mem => blank c (List.mem_reverse.mp mem), ?_⟩
  rw [trimEnd, ← List.reverse_append, ← split, List.reverse_reverse]

/-- A mark that is no blank stops the trimming. -/
theorem trimStart_append_mark {m : CodePoint} (solid : m.isBlank = false) (x y : Text) :
    trimStart (x ++ m :: y) = trimStart x ++ m :: y := by
  induction x with
  | nil => exact List.dropWhile_cons_of_neg (by rw [solid]; exact Bool.false_ne_true)
  | cons c x ih =>
      rw [trimStart, trimStart, List.cons_append, List.dropWhile_cons, List.dropWhile_cons]
      split
      · exact ih
      · rfl

theorem trimEnd_append_mark {m : CodePoint} (solid : m.isBlank = false) (x y : Text) :
    trimEnd (x ++ m :: y) = x ++ m :: trimEnd y := by
  rw [trimEnd, List.reverse_append, List.reverse_cons, List.append_assoc, List.singleton_append,
    trimStart_append_mark solid, List.reverse_append, List.reverse_cons, List.reverse_reverse,
    List.append_assoc]
  rfl

theorem trim_append_mark {m : CodePoint} (solid : m.isBlank = false) (x y : Text) :
    trim (x ++ m :: y) = trimStart x ++ m :: trimEnd y := by
  rw [trim, trimStart_append_mark solid, trimEnd_append_mark solid]

theorem trim_blanks_append {b : Text} (blank : Blanks b) (t : Text) : trim (b ++ t) = trim t := by
  rw [trim, trimStart_blanks_append blank, trim]

theorem trim_of_blanks {b : Text} (blank : Blanks b) : trim b = [] := by
  have alone := trim_blanks_append blank []
  rw [List.append_nil] at alone
  exact alone

theorem trim_append_blanks {b : Text} (blank : Blanks b) (t : Text) : trim (t ++ b) = trim t := by
  by_cases bare : Blanks t
  · rw [trim_blanks_append bare, trim_of_blanks blank, trim_of_blanks bare]
  · -- behind the last character that is kept nothing but blanks is put
    obtain ⟨c, bare⟩ := Classical.not_forall.mp bare
    obtain ⟨mem, solid⟩ := Classical.not_imp.mp bare
    obtain ⟨x, y, rfl⟩ := List.append_of_mem mem
    rw [Bool.not_eq_true] at solid
    rw [List.append_assoc, List.cons_append, trim_append_mark solid, trim_append_mark solid,
      trimEnd_append_blanks blank]

theorem trim_split (t : Text) : ∃ b b', Blanks b ∧ Blanks b' ∧ t = b ++ trim t ++ b' := by
  obtain ⟨b, blank, split⟩ := trimStart_split t
  obtain ⟨b', blank', split'⟩ := trimEnd_split (trimStart t)
  refine ⟨b, b', blank, blank', ?_⟩
  rw [List.append_assoc, trim, ← split', ← split]

theorem trim_trim (t : Text) : trim (trim t) = trim t := by
  obtain ⟨b, b', blank, blank', split⟩ := trim_split t
  have whole : trim (b ++ trim t ++ b') = trim t := congrArg trim split.symm
  rwa [trim_append_blanks blank', trim_blanks_append blank] at whole

theorem trimStart_of_solid {t : Text} (solid : ∀ c ∈ t, c.isBlank = false) : trimStart t = t := by
  refine (span_run (s := []) (List.forall_mem_nil _) ?_).2
  intro c first
  exact solid c (List.mem_of_mem_head? first)

theorem Solid.trim_eq {w : Text} (solid : Solid w) : trim w = w := by
  have reversed : ∀ c ∈ w.reverse, c.isBlank = false := by
    intro c mem
    exact solid.unbroken c (List.mem_reverse.mp mem)
  rw [trim, trimStart_of_solid solid.unbroken, trimEnd, trimStart_of_solid reversed,
    List.reverse_reverse]

/-- What is no blank is not cut off. -/
theorem mem_trim {m : CodePoint} (solid : m.isBlank = false) {t : Text} (h : m ∈ t) : m ∈ trim t := by
  obtain ⟨x, y, rfl⟩ := List.append_of_mem h
  rw [trim_append_mark solid]
  exact List.mem_append_right _ List.mem_cons_self

theorem trimStart_asciiLower (t : Text) : trimStart t.asciiLower = (trimStart t).asciiLower := by
  rw [trimStart, asciiLower, List.dropWhile_map]
  have same : CodePoint.isBlank ∘ CodePoint.asciiLower = CodePoint.isBlank :=
    funext CodePoint.isBlank_asciiLower
  rw [same]
  rfl

theorem trim_asciiLower (t : Text) : trim t.asciiLower = (trim t).asciiLower := by
  rw [trim, trimEnd, trimStart_asciiLower, asciiLower, ← List.map_reverse]
  show (trimStart (asciiLower _)).reverse = _
  rw [trimStart_asciiLower, asciiLower, ← List.map_reverse]
  rfl

/-! ## Blanks that do not count -/

/-- The text ends here, or one of the marks is next. -/
def Begins (marks : List CodePoint) (t : Text) : Prop := ∀ c ∈ t.head?, c ∈ marks

/-- The text begins here, or one of the marks is in front. -/
def Ends (marks : List CodePoint) (t : Text) : Prop := ∀ c ∈ t.getLast?, c ∈ marks

/-- Blanks at the ends of a text and next to one of the marks do not count. -/
def Ignores {α : Type} (marks : List CodePoint) (f : Text → α) : Prop :=
  ∀ x b y : Text, Blanks b → Ends marks x ∨ Begins marks y → f (x ++ b ++ y) = f (x ++ y)

theorem begins_empty (marks : List CodePoint) : Begins marks [] := by
  intro c first
  cases first

theorem ends_empty (marks : List CodePoint) : Ends marks [] := by
  intro c last
  cases last

theorem ends_nil {x : Text} (h : Ends [] x) : x = [] := by
  cases last : x.getLast? with
  | none => exact List.getLast?_eq_none_iff.mp last
  | some c => cases h c last

theorem begins_nil {y : Text} (h : Begins [] y) : y = [] := by
  cases y with
  | nil => rfl
  | cons c y => cases h c rfl

theorem ignores_trim : Ignores [] trim := by
  rintro x b y blank (edge | edge)
  · rw [ends_nil edge, List.nil_append, trim_blanks_append blank, List.nil_append]
  · rw [begins_nil edge, List.append_nil, trim_append_blanks blank, List.append_nil]

theorem Ignores.map {α β : Type} {marks : List CodePoint} {f : Text → α} (h : Ignores marks f)
    (g : α → β) : Ignores marks fun t => g (f t) := by
  intro x b y blank edge
  exact congrArg g (h x b y blank edge)

theorem Ignores.trim {α : Type} {marks : List CodePoint} {f : Text → α} (h : Ignores marks f)
    (t : Text) : f (trim t) = f t := by
  obtain ⟨b, b', blank, blank', split⟩ := trim_split t
  have last := h (b ++ Text.trim t) b' [] blank' (.inr (begins_empty marks))
  have first := h [] b (Text.trim t) blank (.inl (ends_empty marks))
  rw [List.append_nil, List.append_nil, ← split] at last
  rw [last]
  exact first.symm

/-- What stands in front of a place is in earlier pieces, but for the part behind the last
separator. -/
theorem pieces_before (marks : List CodePoint) (x : Text) :
    ∃ front w, (∀ t, pieces sep (x ++ t) = front ++ pieces sep (w ++ t)) ∧ sep ∉ w ∧
      (Ends (sep :: marks) x → Ends marks w) := by
  induction x using pieces_induction sep with
  | whole x free =>
      refine ⟨[], x, fun t => rfl, free, fun edge c last => ?_⟩
      rcases List.mem_cons.mp (edge c last) with rfl | mark
      · exact absurd (List.mem_of_getLast? last) free
      · exact mark
  | front w rest free ih =>
      obtain ⟨front, v, cut, free', ends⟩ := ih
      refine ⟨pieces sep w ++ front, v, fun t => ?_, free', fun edge => ends fun c last => ?_⟩
      · rw [List.append_assoc, List.cons_append, pieces_append_sep, cut, List.append_assoc]
      · refine edge c ?_
        rw [List.getLast?_append, List.getLast?_cons, last]
        rfl

/-- What stands behind a place is in later pieces, but for the part in front of the first
separator. -/
theorem pieces_behind (marks : List CodePoint) (y : Text) :
    ∃ w back, (∀ t, sep ∉ t → pieces sep (t ++ y) = (t ++ w) :: back) ∧ sep ∉ w ∧
      (Begins (sep :: marks) y → Begins marks w) := by
  by_cases h : sep ∈ y
  · obtain ⟨w, rest, rfl, free⟩ := List.eq_append_cons_of_mem h
    refine ⟨w, pieces sep rest, fun t ht => ?_, free, fun edge c first => ?_⟩
    · have whole : sep ∉ t ++ w := fun mem => (List.mem_append.mp mem).elim ht free
      rw [← List.append_assoc, pieces_append_sep, pieces_of_not_mem whole, List.singleton_append]
    · have mark : c ∈ sep :: marks := by
        refine edge c ?_
        rw [List.head?_append, first]
        rfl
      rcases List.mem_cons.mp mark with rfl | mark
      · exact absurd (List.mem_of_head? first) free
      · exact mark
  · refine ⟨y, [], fun t ht => ?_, h, fun edge c first => ?_⟩
    · exact pieces_of_not_mem fun mem => (List.mem_append.mp mem).elim ht h
    · rcases List.mem_cons.mp (edge c first) with rfl | mark
      · exact absurd (List.mem_of_head? first) h
      · exact mark

/-- If blanks at the ends of the pieces do not count, those next to the separator do not count
either. -/
theorem Ignores.pieces {α : Type} {marks : List CodePoint} {f : Text → α} (h : Ignores marks f)
    (solid : sep.isBlank = false) : Ignores (sep :: marks) fun t => (pieces sep t).map f := by
  intro x b y blank edge
  obtain ⟨front, w, before, freeW, ends⟩ := pieces_before marks x
  obtain ⟨v, back, behind, freeV, begins⟩ := pieces_behind marks y
  have free : sep ∉ b := by
    intro mem
    cases solid.symm.trans (blank sep mem)
  have around (t : Text) (ht : sep ∉ t) :
      Text.pieces sep (x ++ t ++ y) = front ++ (w ++ t ++ v) :: back := by
    rw [List.append_assoc, before, ← List.append_assoc, behind]
    exact fun mem => (List.mem_append.mp mem).elim freeW ht
  have bare := around [] List.not_mem_nil
  rw [List.append_nil, List.append_nil] at bare
  have same := h w b v blank (edge.imp ends begins)
  simp only [around b free, bare, List.map_append, List.map_cons, same]

end QueryGateway.Text
