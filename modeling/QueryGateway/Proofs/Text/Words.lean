import QueryGateway.Text.Blank

/-!
# Where texts are cut

What splitting a text at its blanks means, said without the splitter: a word is solid, blanks stand
around the words and between them (`Spaced`), and every text is spaced in one way only. From it the
form of a text of two words (`words_eq_pair`). A text is cut at a mark where the mark stands first,
or not at all, and a run of characters of one class is taken off its front in one way only
(`run_unique`).
-/

namespace QueryGateway.Text

/-! ## Marks -/

theorem cut_append {sep : CodePoint} {t : Text} (h : sep ∉ t) (rest : Text) :
    cut sep (t ++ sep :: rest) = (t, some rest) := by
  induction t with
  | nil => exact if_pos rfl
  | cons c t ih =>
      have other : c ≠ sep := fun same => h (same ▸ List.mem_cons_self)
      rw [List.cons_append, cut, if_neg other, ih fun mem => h (List.mem_cons_of_mem c mem)]

theorem cut_of_not_mem {sep : CodePoint} {t : Text} (h : sep ∉ t) : cut sep t = (t, none) := by
  induction t with
  | nil => rfl
  | cons c t ih =>
      have other : c ≠ sep := fun same => h (same ▸ List.mem_cons_self)
      rw [cut, if_neg other, ih fun mem => h (List.mem_cons_of_mem c mem)]

theorem dropStart?_iff {start t rest : Text} :
    dropStart? start t = some rest ↔ t = start ++ rest := by
  fun_induction dropStart? start t with
  | case1 t => exact ⟨fun h => Option.some.inj h, fun h => congrArg some h⟩
  | case2 => exact ⟨nofun, nofun⟩
  | case3 start p more ih =>
      rw [ih, List.cons_append]
      exact ⟨fun h => congrArg (p :: ·) h, fun h => (List.cons.inj h).2⟩
  | case4 p start c more other =>
      exact ⟨nofun, fun h => absurd (List.cons.inj h).1.symm other⟩

/-- A text begins with no longer one. -/
theorem startsWith_of_longer {t start : Text} (h : t.length < start.length) :
    startsWith t start = false := by
  cases dropped : dropStart? start t with
  | none => rw [startsWith, dropped, Option.isSome_none]
  | some rest =>
      rw [dropStart?_iff.mp dropped, List.length_append] at h
      omega

/-! ## Runs of one class of characters -/

section Run
variable {p : CodePoint → Bool} {s t s' t' : Text}

/-- A run of characters of one class ends where the next character is of another. -/
theorem span_run (inside : ∀ c ∈ s, p c = true) (stop : ∀ c ∈ t.head?, p c = false) :
    (s ++ t).takeWhile p = s ∧ (s ++ t).dropWhile p = t := by
  have none : t.takeWhile p = [] ∧ t.dropWhile p = t := by
    cases t with
    | nil => exact ⟨rfl, rfl⟩
    | cons c more =>
        have other : ¬ p c = true := by
          rw [stop c rfl]
          exact Bool.false_ne_true
        exact ⟨List.takeWhile_cons_of_neg other, List.dropWhile_cons_of_neg other⟩
  rw [List.takeWhile_append_of_pos inside, List.dropWhile_append_of_pos inside, none.1, none.2,
    List.append_nil]
  exact ⟨rfl, rfl⟩

/-- So a text begins with such a run in one way only. -/
theorem run_unique (inside : ∀ c ∈ s, p c = true) (stop : ∀ c ∈ t.head?, p c = false)
    (inside' : ∀ c ∈ s', p c = true) (stop' : ∀ c ∈ t'.head?, p c = false)
    (same : s ++ t = s' ++ t') : s = s' ∧ t = t' := by
  have front := span_run inside stop
  have front' := span_run inside' stop'
  rw [same] at front
  exact ⟨front.1.symm.trans front'.1, front.2.symm.trans front'.2⟩

end Run

/-! ## Words and blanks -/

/-- A word: something, without a blank in it. -/
structure Solid (w : Text) : Prop where
  nonempty : w ≠ []
  unbroken : ∀ c ∈ w, c.isBlank = false

instance (w : Text) : Decidable (Solid w) :=
  decidable_of_iff (w ≠ [] ∧ w.all (fun c => !c.isBlank) = true) <| by
    simp only [List.all_eq_true, Bool.not_eq_true']
    exact ⟨fun ⟨nonempty, unbroken⟩ => ⟨nonempty, unbroken⟩, fun solid => ⟨solid.1, solid.2⟩⟩

/-- Nothing but blanks. -/
def Blanks (t : Text) : Prop := ∀ c ∈ t, c.isBlank = true

instance (t : Text) : Decidable (Blanks t) := List.decidableBAll _ t

/-- The text ends here, or a blank is next. -/
def Pauses (t : Text) : Prop := ∀ c ∈ t.head?, c.isBlank = true

theorem blanks_nil : Blanks [] := List.forall_mem_nil _

theorem Blanks.pauses {t : Text} (blank : Blanks t) : Pauses t := by
  intro c head
  exact blank c (List.mem_of_mem_head? head)

theorem Blanks.pauses_append {b : Text} (blank : Blanks b) (some : b ≠ []) (t : Text) :
    Pauses (b ++ t) := by
  obtain ⟨c, b, rfl⟩ := List.exists_cons_of_ne_nil some
  rintro d ⟨⟩
  exact blank c List.mem_cons_self

/-- A text that begins with a word does not begin with a blank. -/
theorem Solid.front {w : Text} (solid : Solid w) (t : Text) :
    ∀ c ∈ (w ++ t).head?, c.isBlank = false := by
  obtain ⟨c, w, rfl⟩ := List.exists_cons_of_ne_nil solid.nonempty
  rintro d ⟨⟩
  exact solid.unbroken c List.mem_cons_self

/-- A word at the front of a text is taken off in one way only, if the text pauses behind it. -/
theorem Solid.append_inj {w t w' t' : Text} (solid : Solid w) (pauses : Pauses t)
    (solid' : Solid w') (pauses' : Pauses t') (same : w ++ t = w' ++ t') : w = w' ∧ t = t' := by
  have inside {w : Text} (solid : Solid w) : ∀ c ∈ w, (!c.isBlank) = true := by
    intro c mem
    rw [solid.unbroken c mem]
    rfl
  have stop {t : Text} (pauses : Pauses t) : ∀ c ∈ t.head?, (!c.isBlank) = false := by
    intro c first
    rw [pauses c first]
    rfl
  exact run_unique (p := fun c => !c.isBlank) (inside solid) (stop pauses) (inside solid')
    (stop pauses') same

theorem exists_solid_of_not_pauses {t : Text} (h : ¬ Pauses t) :
    ∃ d rest, t = d :: rest ∧ d.isBlank = false := by
  cases t with
  | nil => exact absurd blanks_nil.pauses h
  | cons d rest =>
      refine ⟨d, rest, rfl, Bool.eq_false_iff.mpr fun blank => h ?_⟩
      rintro c ⟨⟩
      exact blank

theorem solid_cons {c : CodePoint} {w : Text} (solid : c.isBlank = false)
    (rest : ∀ d ∈ w, d.isBlank = false) : Solid (c :: w) :=
  ⟨List.cons_ne_nil c w, List.forall_mem_cons.mpr ⟨solid, rest⟩⟩

/-- A text of these words, with blanks before, between and after them. -/
inductive Spaced : Text → List Text → Prop
  | done {b : Text} : Blanks b → Spaced b []
  | word {b w t : Text} {ws : List Text} :
      Blanks b → Solid w → Pauses t → Spaced t ws → Spaced (b ++ w ++ t) (w :: ws)

namespace Spaced

theorem blank_cons {c : CodePoint} {t : Text} {ws : List Text} (blank : c.isBlank = true)
    (h : Spaced t ws) : Spaced (c :: t) ws := by
  cases h with
  | done blanks => exact .done (List.forall_mem_cons.mpr ⟨blank, blanks⟩)
  | word blanks solid pauses rest =>
      exact .word (List.forall_mem_cons.mpr ⟨blank, blanks⟩) solid pauses rest

theorem solid_cons {c : CodePoint} {t : Text} {ws : List Text} (solid : c.isBlank = false)
    (pauses : Pauses t) (h : Spaced t ws) : Spaced (c :: t) ([c] :: ws) :=
  .word (w := [c]) blanks_nil (Text.solid_cons solid (List.forall_mem_nil _)) pauses h

/-- A text that begins with something solid begins with its first word. -/
theorem of_solid_cons {d : CodePoint} {t : Text} {ws : List Text} (solid : d.isBlank = false)
    (h : Spaced (d :: t) ws) :
    ∃ w rest more, ws = (d :: w) :: more ∧ t = w ++ rest ∧ (∀ c ∈ w, c.isBlank = false) ∧
      Pauses rest ∧ Spaced rest more := by
  generalize whole : d :: t = s at h
  cases h with
  | done blanks =>
      have blank := blanks d (whole ▸ List.mem_cons_self)
      rw [solid] at blank
      cases blank
  | @word b w rest more blanks word pauses spaced =>
      cases b with
      | cons c b =>
          cases whole
          have blank := blanks d List.mem_cons_self
          rw [solid] at blank
          cases blank
      | nil =>
          cases w with
          | nil => exact absurd rfl word.nonempty
          | cons c w =>
              cases whole
              exact ⟨w, rest, more, rfl, rfl, fun e mem => word.unbroken e (List.mem_cons_of_mem _ mem),
                pauses, spaced⟩

end Spaced

/-! ## The splitter -/

section Step
variable {c d : CodePoint} {t : Text}

theorem words_cons_blank (blank : c.isBlank = true) : words (c :: t) = words t := by
  rw [words.eq_def]
  exact if_pos blank

theorem words_cons_pauses (solid : c.isBlank = false) (pauses : Pauses t) :
    words (c :: t) = [c] :: words t := by
  have other : ¬ c.isBlank = true := Bool.eq_false_iff.mp solid
  rw [words.eq_def]
  cases t with
  | nil => exact if_neg other
  | cons d t => exact (if_neg other).trans (if_pos (pauses d rfl))

theorem words_cons_solid (solid : c.isBlank = false) (next : d.isBlank = false) {w : Text}
    {more : List Text} (rest : words (d :: t) = w :: more) :
    words (c :: d :: t) = (c :: w) :: more := by
  rw [words.eq_def]
  simp only [solid, next, rest, Bool.false_eq_true, if_false]

end Step

theorem words_blanks_append {b : Text} (blank : Blanks b) (t : Text) : words (b ++ t) = words t := by
  induction b with
  | nil => rfl
  | cons c b ih =>
      obtain ⟨first, more⟩ := List.forall_mem_cons.mp blank
      rw [List.cons_append, words_cons_blank first]
      exact ih more

theorem words_solid_append {w t : Text} (solid : Solid w) (pauses : Pauses t) :
    words (w ++ t) = w :: words t := by
  obtain ⟨nonempty, unbroken⟩ := solid
  induction w with
  | nil => exact absurd rfl nonempty
  | cons c w ih =>
      obtain ⟨first, more⟩ := List.forall_mem_cons.mp unbroken
      cases w with
      | nil => exact words_cons_pauses first pauses
      | cons d w =>
          exact words_cons_solid first (more d List.mem_cons_self) (ih (List.cons_ne_nil d w) more)

theorem Spaced.words_eq {t : Text} {ws : List Text} (h : Spaced t ws) : words t = ws := by
  induction h with
  | @done b blank =>
      have split := words_blanks_append blank []
      rwa [List.append_nil] at split
  | word blank solid pauses _ ih =>
      rw [List.append_assoc, words_blanks_append blank, words_solid_append solid pauses, ih]

/-- Every text is spaced into its words. The induction is on the text; a solid character in front of
another one joins the word that begins there. -/
theorem spaced_words (t : Text) : Spaced t (words t) := by
  induction t with
  | nil => exact .done blanks_nil
  | cons c t ih =>
      cases first : c.isBlank with
      | true =>
          rw [words_cons_blank first]
          exact ih.blank_cons first
      | false =>
          by_cases pauses : Pauses t
          · rw [words_cons_pauses first pauses]
            exact ih.solid_cons first pauses
          · obtain ⟨d, t, rfl, next⟩ := exists_solid_of_not_pauses pauses
            obtain ⟨w, rest, more, split, rfl, unbroken, pauses, spaced⟩ := ih.of_solid_cons next
            rw [words_cons_solid first next split]
            exact .word (w := c :: d :: w) blanks_nil
              (Text.solid_cons first (List.forall_mem_cons.mpr ⟨next, unbroken⟩)) pauses spaced

theorem words_eq_iff {t : Text} {ws : List Text} : words t = ws ↔ Spaced t ws :=
  ⟨fun h => h ▸ spaced_words t, Spaced.words_eq⟩

/-- A text has two words if they stand in it, one after the other, with blanks between them and
maybe around them. -/
theorem words_eq_pair {t v w : Text} :
    words t = [v, w] ↔
      Solid v ∧ Solid w ∧
        ∃ before between after, Blanks before ∧ Blanks between ∧ Blanks after ∧ between ≠ [] ∧
          t = before ++ v ++ between ++ w ++ after := by
  rw [words_eq_iff]
  constructor
  · intro h
    cases h with
    | @word before _ t _ blank solid pauses rest =>
        cases rest with
        | @word between _ after _ blank' solid' _ rest =>
            cases rest with
            | done blank'' =>
                refine ⟨solid, solid', before, between, after, blank, blank', blank'', ?_, ?_⟩
                · rintro rfl
                  -- without a blank between them the first word would go on
                  obtain ⟨c, w, rfl⟩ := List.exists_cons_of_ne_nil solid'.nonempty
                  have isBlank : c.isBlank = true := pauses c rfl
                  rw [solid'.unbroken c List.mem_cons_self] at isBlank
                  cases isBlank
                · simp only [List.append_assoc]
  · rintro ⟨solid, solid', before, between, after, blank, blank', blank'', apart, rfl⟩
    have last : Spaced (between ++ w ++ after) [w] :=
      .word blank' solid' blank''.pauses (.done blank'')
    have pauses : Pauses (between ++ w ++ after) := by
      rw [List.append_assoc]
      exact blank'.pauses_append apart _
    simpa only [List.append_assoc] using Spaced.word blank solid pauses last

end QueryGateway.Text
