import QueryGateway.Proofs.Json.Token
import QueryGateway.Proofs.Value.Members

/-!
# The reader accepts exactly its grammar

For every dialect the reader and the grammar agree, in both directions and on the value:
`read? d t = some v ↔ Denotes d t v`. So a text is refused exactly if no rule builds it, and it
denotes one value at most.

The reader is sound by induction on its fuel: what it takes off the front of a text is built by a
rule, and the rest is what it hands on. It is complete by induction on the derivation, with twice
the length of the text as fuel: every step of the reader takes a character or opens a container. The
depth of the derivation need not be the depth that the reader starts with, `Val.mono` moves it
there.

An object keeps its members in the order of the text, and a name that occurs twice keeps its first
place and its last value; `get?_resolve` says what looking a name up comes to.
-/

namespace QueryGateway

namespace Json

open Text

variable {d : Dialect}

/-! ## What a value begins with -/

/-- A character that neither is skipped nor ends a list. -/
def Leads (c : CodePoint) : Prop := isBlank c = false ∧ c ≠ ']'

instance (c : CodePoint) : Decidable (Leads c) := inferInstanceAs (Decidable (_ ∧ _))

/-- A character that opens neither a text nor a container. -/
def Bare (c : CodePoint) : Prop := c ≠ '"' ∧ c ≠ '[' ∧ c ≠ '\x7b'

instance (c : CodePoint) : Decidable (Bare c) := inferInstanceAs (Decidable (_ ∧ _))

theorem leads_of_digit {c : CodePoint} (digit : c.isAsciiDigit = true) : Leads c ∧ Bare c := by
  have other {a : Char} (h : (CodePoint.ofChar a).isAsciiDigit = false) :
      c ≠ CodePoint.ofChar a := by
    rintro rfl
    exact nomatch h.symm.trans digit
  have range := isAsciiDigit_iff.mp digit
  have solid : isBlank c = false := by
    simp only [isBlank, Bool.or_eq_false_iff, decide_eq_false_iff_not]
    omega
  exact ⟨⟨solid, other rfl⟩, other rfl, other rfl, other rfl⟩

/-- Names and numbers begin with a digit, a minus sign or the first letter of a name. -/
theorem Scalar.begins {w : Text} {v : Value} (h : Scalar d w v) :
    ∃ c more, w = c :: more ∧ (c.isAsciiDigit = true ∨ c ∈ ofString "-ntfNI") := by
  have number {negative : Bool} {ds : Text} (some : Digits ds) (behind : Text) :
      ∃ c more, sign negative ++ (ds ++ behind) = c :: more ∧
        (c.isAsciiDigit = true ∨ c ∈ ofString "-ntfNI") := by
    obtain ⟨c, more, rfl, digit⟩ := some.head
    cases negative with
    | false => exact ⟨c, more ++ behind, rfl, .inl digit⟩
    | true => exact ⟨_, c :: more ++ behind, rfl, .inr (by decide)⟩
  cases h with
  | named known =>
      simp only [names, List.mem_cons, Prod.mk.injEq, List.not_mem_nil, or_false] at known
      rcases known with
        ⟨rfl, rfl⟩ | ⟨rfl, rfl⟩ | ⟨rfl, rfl⟩ | ⟨rfl, rfl⟩ | ⟨rfl, rfl⟩ | ⟨rfl, rfl⟩ <;>
      exact ⟨_, _, rfl, by decide⟩
  | @int negative ds whole _ _ =>
      obtain ⟨c, more, text, begins⟩ := number whole.toDigits []
      rw [List.append_nil] at text
      exact ⟨c, more, text, begins⟩
  | real whole _ _ _ _ => exact number whole.toDigits _

theorem Scalar.head {w : Text} {v : Value} (h : Scalar d w v) :
    ∃ c more, w = c :: more ∧ Leads c ∧ Bare c := by
  have marks : ((ofString "-ntfNI").all fun c => Leads c ∧ Bare c) = true := by decide
  obtain ⟨c, more, whole, digit | mark⟩ := h.begins
  · exact ⟨c, more, whole, leads_of_digit digit⟩
  · exact ⟨c, more, whole, of_decide_eq_true (List.all_eq_true.mp marks c mark)⟩

theorem Val.head {depth : Nat} {w : Text} {v : Value} (h : Val d depth w v) :
    ∃ c more, w = c :: more ∧ Leads c := by
  cases h with
  | scalar s =>
      obtain ⟨c, more, whole, leads, -⟩ := s.head
      exact ⟨c, more, whole, leads⟩
  | text | emptyList | list | emptyTable | table => exact ⟨_, _, rfl, by decide⟩

theorem Val.length_pos {depth : Nat} {w : Text} {v : Value} (h : Val d depth w v) :
    0 < w.length := by
  obtain ⟨c, more, rfl, -⟩ := h.head
  exact Nat.succ_pos _

theorem solid_of_digit {c : CodePoint} (digit : c.isAsciiDigit = true) : c.isBlank = false := by
  have range := isAsciiDigit_iff.mp digit
  simp only [CodePoint.isBlank, CodePoint.isSpace, Bool.or_eq_false_iff, Bool.and_eq_false_iff,
    decide_eq_false_iff_not]
  omega

/-- A value is not made of blanks, those that JSON does not know included. -/
theorem Val.solid {depth : Nat} {w : Text} {v : Value} (h : Val d depth w v) :
    ∃ c ∈ w, c.isBlank = false := by
  have marks : ((ofString "-ntfNI").all fun c => c.isBlank = false) = true := by decide
  cases h with
  | scalar s =>
      obtain ⟨c, more, rfl, digit | mark⟩ := s.begins
      · exact ⟨c, List.mem_cons_self, solid_of_digit digit⟩
      · exact ⟨c, List.mem_cons_self, of_decide_eq_true (List.all_eq_true.mp marks c mark)⟩
  | text | emptyList | list | emptyTable | table => exact ⟨_, List.mem_cons_self, by decide⟩

/-! ## White space in front -/

theorem Elements.pad {depth : Nat} {a w : Text} {items : List Value} (ha : Blank a)
    (h : Elements d depth w items) : Elements d depth (a ++ w) items := by
  cases h with
  | last before v behind =>
      rw [← List.append_assoc]
      exact .last (ha.append before) v behind
  | more before v behind later =>
      rw [← List.append_assoc]
      exact .more (ha.append before) v behind later

theorem Label.pad {a l name : Text} (ha : Blank a) (h : Label d l name) :
    Label d (a ++ l) name := by
  cases h with
  | quoted before chars b c =>
      rw [← List.append_assoc]
      exact .quoted (ha.append before) chars b c

theorem Pairs.pad {depth : Nat} {a w : Text} {members : Members} (ha : Blank a)
    (h : Pairs d depth w members) : Pairs d depth (a ++ w) members := by
  cases h with
  | last label v behind =>
      rw [← List.append_assoc]
      exact .last (label.pad ha) v behind
  | more label v behind later =>
      rw [← List.append_assoc]
      exact .more (label.pad ha) v behind later

/-! ## The reader is sound -/

mutual

theorem readValue?_sound {fuel depth : Nat} {t rest : Text} {v : Value}
    (h : readValue? d fuel depth t = some (v, rest)) :
    ∃ w, Val d depth w v ∧ t = w ++ rest := by
  cases fuel with
  | zero => cases h
  | succ fuel =>
  cases t with
  | nil => cases h
  | cons c more =>
  rw [readValue?.eq_def] at h
  dsimp only at h
  split at h
  · rename_i quote
    obtain ⟨⟨u, behind⟩, read, same⟩ := Option.map_eq_some_iff.mp h
    cases same
    obtain ⟨w, rfl, chars⟩ := readText?_sound read
    refine ⟨_, .text chars, ?_⟩
    rw [quote, enclosed_append]
  split at h
  · rename_i bracket
    obtain ⟨a, blank, whole⟩ := blank_front more
    cases front : skipBlanks more with
    | nil =>
        rw [front] at h
        cases h
    | cons e inner =>
    rw [front] at h whole
    dsimp only at h
    split at h
    · rename_i close
      cases h
      refine ⟨_, .emptyList blank, ?_⟩
      rw [bracket, whole, close, enclosed_append]
    · cases depth with
      | zero => cases h
      | succ depth =>
      obtain ⟨⟨items, behind⟩, read, same⟩ := Option.map_eq_some_iff.mp h
      cases same
      obtain ⟨w, elements, inside⟩ := readItems?_sound read
      refine ⟨_, .list (elements.pad blank), ?_⟩
      rw [bracket, whole, inside, enclosed_append, List.append_assoc]
  split at h
  · rename_i brace
    obtain ⟨a, blank, whole⟩ := blank_front more
    cases front : skipBlanks more with
    | nil =>
        rw [front] at h
        cases h
    | cons e inner =>
    rw [front] at h whole
    dsimp only at h
    split at h
    · rename_i close
      cases h
      refine ⟨_, .emptyTable blank, ?_⟩
      rw [brace, whole, close, enclosed_append]
    · cases depth with
      | zero => cases h
      | succ depth =>
      obtain ⟨⟨members, behind⟩, read, same⟩ := Option.map_eq_some_iff.mp h
      cases same
      obtain ⟨w, pairs, inside⟩ := readMembers?_sound read
      refine ⟨_, .table (pairs.pad blank), ?_⟩
      rw [brace, whole, inside, enclosed_append, List.append_assoc]
  · obtain ⟨w, scalar, whole⟩ := scalar?_sound h
    exact ⟨w, .scalar scalar, whole⟩

theorem readItems?_sound {fuel depth : Nat} {t rest : Text} {items : List Value}
    (h : readItems? d fuel depth t = some (items, rest)) :
    ∃ w, Elements d depth w items ∧ t = w ++ CodePoint.ofChar ']' :: rest := by
  cases fuel with
  | zero => cases h
  | succ fuel =>
  rw [readItems?] at h
  obtain ⟨⟨v, behind⟩, read, h⟩ := Option.bind_eq_some_iff.mp h
  obtain ⟨w, value, taken⟩ := readValue?_sound read
  obtain ⟨b, blank, whole⟩ := blank_front behind
  dsimp only at h
  split at h
  · cases h
  · rename_i c more front
    rw [front] at whole
    split at h
    · rename_i close
      cases h
      exact ⟨w ++ b, .last blank_nil value blank, by rw [taken, whole, close, List.append_assoc]⟩
    · split at h
      · rename_i comma
        obtain ⟨⟨later, behind⟩, others, same⟩ := Option.bind_eq_some_iff.mp h
        cases same
        obtain ⟨u, elements, inside⟩ := readItems?_sound others
        obtain ⟨a, padding, ahead⟩ := blank_front more
        refine ⟨_, .more blank_nil value blank (elements.pad padding), ?_⟩
        rw [taken, whole, comma, ahead, inside]
        simp only [List.append_assoc, List.cons_append, List.nil_append]
      · cases h

theorem readMembers?_sound {fuel depth : Nat} {t rest : Text} {members : Members}
    (h : readMembers? d fuel depth t = some (members, rest)) :
    ∃ w, Pairs d depth w members ∧ t = w ++ CodePoint.ofChar '\x7d' :: rest := by
  cases fuel with
  | zero => cases h
  | succ fuel =>
  cases t with
  | nil => cases h
  | cons q quoted =>
  rw [readMembers?] at h
  split at h
  · rename_i quote
    obtain ⟨⟨name, afterName⟩, named, h⟩ := Option.bind_eq_some_iff.mp h
    obtain ⟨n, taken, chars⟩ := readText?_sound named
    obtain ⟨b, blankBefore, whole⟩ := blank_front afterName
    dsimp only at h
    split at h
    · cases h
    · rename_i m marked front
      rw [front] at whole
      split at h
      · rename_i colon
        obtain ⟨⟨v, afterValue⟩, read, h⟩ := Option.bind_eq_some_iff.mp h
        obtain ⟨c, blankBehind, valued⟩ := blank_front marked
        obtain ⟨w, value, inside⟩ := readValue?_sound read
        obtain ⟨e, blank, ending⟩ := blank_front afterValue
        have label : Label d _ name := .quoted blank_nil chars blankBefore blankBehind
        dsimp only at h
        split at h
        · cases h
        · rename_i mark more front
          rw [front] at ending
          split at h
          · rename_i close
            cases h
            refine ⟨_, .last label value blank, ?_⟩
            rw [quote, taken, whole, colon, valued, inside, ending, close]
            simp only [List.append_assoc, List.cons_append, List.nil_append]
          · split at h
            · rename_i comma
              obtain ⟨⟨later, behind⟩, others, same⟩ := Option.bind_eq_some_iff.mp h
              cases same
              obtain ⟨u, pairs, within⟩ := readMembers?_sound others
              obtain ⟨a, padding, ahead⟩ := blank_front more
              refine ⟨_, .more label value blank (pairs.pad padding), ?_⟩
              rw [quote, taken, whole, colon, valued, inside, ending, comma, ahead, within]
              simp only [List.append_assoc, List.cons_append, List.nil_append]
            · cases h
      · cases h
  · cases h

end

/-! ## The reader is complete -/

theorem Val.skipBlanks {depth : Nat} {w : Text} {v : Value} (h : Val d depth w v) (rest : Text) :
    Json.skipBlanks (w ++ rest) = w ++ rest := by
  obtain ⟨c, more, rfl, solid, -⟩ := h.head
  exact skipBlanks_cons solid _

theorem Elements.front {depth : Nat} {w : Text} {items : List Value}
    (h : Elements d depth w items) : ∃ a c more, w = a ++ c :: more ∧ Blank a ∧ Leads c := by
  cases h with
  | last before v _ =>
      obtain ⟨c, more, rfl, leads⟩ := v.head
      exact ⟨_, c, _, rfl, before, leads⟩
  | more before v _ _ =>
      obtain ⟨c, more, rfl, leads⟩ := v.head
      exact ⟨_, c, _, rfl, before, leads⟩

theorem Pairs.front {depth : Nat} {w : Text} {members : Members} (h : Pairs d depth w members) :
    ∃ a more, w = a ++ CodePoint.ofChar '"' :: more ∧ Blank a := by
  have labelled {l name : Text} (label : Label d l name) (behind : Text) :
      ∃ a more, l ++ behind = a ++ CodePoint.ofChar '"' :: more ∧ Blank a := by
    cases label with
    | quoted before chars b c =>
        exact ⟨_, _, List.append_assoc _ _ behind, before⟩
  cases h with
  | last label _ _ => exact labelled label _
  | more label _ _ _ => exact labelled label _

theorem skipBlanks_front {a w more : Text} {c : CodePoint} (whole : w = a ++ c :: more)
    (blank : Blank a) (solid : isBlank c = false) (rest : Text) :
    skipBlanks (w ++ rest) = c :: (more ++ rest) := by
  rw [whole, List.append_assoc, skipBlanks_append blank]
  exact skipBlanks_cons solid _

/-- Behind a value stand blanks and the mark that ends it. -/
theorem skipBlanks_mark {b : Text} (blank : Blank b) {c : CodePoint}
    (mark : c = CodePoint.ofChar ',' ∨ c = CodePoint.ofChar ']' ∨ c = CodePoint.ofChar '\x7d')
    (rest : Text) : skipBlanks (b ++ c :: rest) = c :: rest ∧ Closed (b ++ c :: rest) := by
  have solid : isBlank c = false := by
    rcases mark with rfl | rfl | rfl <;> rfl
  exact ⟨(skipBlanks_append blank _).trans (skipBlanks_cons solid rest),
    .append blank (.mark rest mark)⟩

/-- The reader of members takes a label off and goes on with the value. -/
theorem readMembers?_label {l name t : Text} (h : Label d l name) (solid : skipBlanks t = t)
    (fuel depth : Nat) :
    readMembers? d (fuel + 1) depth (skipBlanks (l ++ t)) =
      (readValue? d fuel depth t).bind fun r =>
        match skipBlanks r.2 with
        | [] => none
        | c :: rest =>
          if c = '\x7d' then some ([(name, r.1)], rest)
          else if c = ',' then
            (readMembers? d fuel depth (skipBlanks rest)).bind fun q =>
              some ((name, r.1) :: q.1, q.2)
          else none := by
  cases h with
  | @quoted a n b c _ before chars blank behind =>
      have text : a ++ CodePoint.ofChar '"' :: (n ++ CodePoint.ofChar '"' ::
          (b ++ CodePoint.ofChar ':' :: c)) ++ t = a ++ CodePoint.ofChar '"' ::
            (n ++ CodePoint.ofChar '"' :: (b ++ CodePoint.ofChar ':' :: (c ++ t))) := by
        simp only [List.append_assoc, List.cons_append]
      have colon : skipBlanks (b ++ CodePoint.ofChar ':' :: (c ++ t)) =
          CodePoint.ofChar ':' :: (c ++ t) :=
        (skipBlanks_append blank _).trans (skipBlanks_cons rfl _)
      have long : n.length < (n ++ CodePoint.ofChar '"' ::
          (b ++ CodePoint.ofChar ':' :: (c ++ t))).length + 1 := by
        rw [List.length_append]
        omega
      rw [text, skipBlanks_append before, skipBlanks_cons rfl, readMembers?, if_pos rfl,
        readText?_complete chars _ long]
      show (match skipBlanks (b ++ CodePoint.ofChar ':' :: (c ++ t)) with
        | [] => none
        | m :: rest => _) = _
      rw [colon]
      dsimp only
      rw [if_pos rfl, skipBlanks_append behind, solid]
      rfl

mutual

theorem readValue?_complete {depth : Nat} {w : Text} {v : Value} (h : Val d depth w v)
    {rest : Text} (closed : Closed rest) {fuel : Nat} (enough : 2 * w.length ≤ fuel + 1) :
    readValue? d fuel depth (w ++ rest) = some (v, rest) := by
  have positive := h.length_pos
  obtain ⟨fuel, rfl⟩ : ∃ k, fuel = k + 1 := ⟨fuel - 1, by omega⟩
  match h with
  | .scalar scalar =>
      have read := scalar?_complete scalar closed
      obtain ⟨c, more, rfl, -, noText, noList, noTable⟩ := scalar.head
      rw [List.cons_append, readValue?.eq_def]
      dsimp only
      rw [if_neg noText, if_neg noList, if_neg noTable]
      exact read
  | .text (w := w) chars =>
      have long : w.length < (w ++ CodePoint.ofChar '"' :: rest).length + 1 := by
        rw [List.length_append]
        omega
      rw [enclosed_append, readValue?.eq_def]
      dsimp only
      rw [if_pos rfl, readText?_complete chars rest long]
      rfl
  | .emptyList (b := b) blank =>
      rw [enclosed_append, readValue?.eq_def]
      dsimp only
      rw [if_neg (by decide), if_pos rfl, (skipBlanks_mark blank (.inr (.inl rfl)) rest).1]
      rfl
  | .list (w := w) elements =>
      rw [length_enclosed] at enough
      have items : readItems? d fuel _ (skipBlanks (w ++ CodePoint.ofChar ']' :: rest)) = _ :=
        readItems?_complete elements rest (by omega)
      obtain ⟨a, c, more, whole, blank, solid, noEnd⟩ := elements.front
      rw [skipBlanks_front whole blank solid] at items
      rw [enclosed_append, readValue?.eq_def]
      dsimp only
      rw [if_neg (by decide), if_pos rfl, skipBlanks_front whole blank solid]
      dsimp only
      rw [if_neg noEnd, items]
      rfl
  | .emptyTable (b := b) blank =>
      rw [enclosed_append, readValue?.eq_def]
      dsimp only
      rw [if_neg (by decide), if_neg (by decide), if_pos rfl,
        (skipBlanks_mark blank (.inr (.inr rfl)) rest).1]
      rfl
  | .table (w := w) pairs =>
      rw [length_enclosed] at enough
      have members :
          readMembers? d fuel _ (skipBlanks (w ++ CodePoint.ofChar '\x7d' :: rest)) = _ :=
        readMembers?_complete pairs rest (by omega)
      obtain ⟨a, more, whole, blank⟩ := pairs.front
      rw [skipBlanks_front whole blank rfl] at members
      rw [enclosed_append, readValue?.eq_def]
      dsimp only
      rw [if_neg (by decide), if_neg (by decide), if_pos rfl, skipBlanks_front whole blank rfl]
      dsimp only
      rw [if_neg (by decide), members]
      rfl

theorem readItems?_complete {depth : Nat} {w : Text} {items : List Value}
    (h : Elements d depth w items) (rest : Text) {fuel : Nat} (enough : 2 * w.length ≤ fuel) :
    readItems? d fuel depth (skipBlanks (w ++ CodePoint.ofChar ']' :: rest)) =
      some (items, rest) := by
  match h with
  | .last (a := a) (w := w) (b := b) before value behind =>
      have positive := value.length_pos
      simp only [List.length_append] at enough
      obtain ⟨fuel, rfl⟩ : ∃ k, fuel = k + 1 := ⟨fuel - 1, by omega⟩
      obtain ⟨mark, closed⟩ := skipBlanks_mark behind (.inr (.inl rfl)) rest
      rw [List.append_assoc, List.append_assoc, skipBlanks_append before, value.skipBlanks,
        readItems?, readValue?_complete value closed (by omega)]
      show (match skipBlanks (b ++ CodePoint.ofChar ']' :: rest) with
        | [] => none
        | c :: rest => _) = _
      rw [mark]
      rfl
  | .more (a := a) (w := w) (b := b) (u := u) before value behind later =>
      have positive := value.length_pos
      simp only [List.length_append, List.length_cons] at enough
      obtain ⟨fuel, rfl⟩ : ∃ k, fuel = k + 1 := ⟨fuel - 1, by omega⟩
      obtain ⟨mark, closed⟩ :=
        skipBlanks_mark behind (.inl rfl) (u ++ CodePoint.ofChar ']' :: rest)
      have others : readItems? d fuel _ (skipBlanks (u ++ CodePoint.ofChar ']' :: rest)) = _ :=
        readItems?_complete later rest (by omega)
      rw [List.append_assoc, List.append_assoc, List.append_assoc, List.cons_append,
        skipBlanks_append before, value.skipBlanks, readItems?,
        readValue?_complete value closed (by omega)]
      show (match skipBlanks (b ++ CodePoint.ofChar ',' :: (u ++ CodePoint.ofChar ']' :: rest)) with
        | [] => none
        | c :: rest => _) = _
      rw [mark]
      dsimp only
      rw [if_neg (by decide), if_pos rfl, others]
      rfl

theorem readMembers?_complete {depth : Nat} {w : Text} {members : Members}
    (h : Pairs d depth w members) (rest : Text) {fuel : Nat} (enough : 2 * w.length ≤ fuel) :
    readMembers? d fuel depth (skipBlanks (w ++ CodePoint.ofChar '\x7d' :: rest)) =
      some (members, rest) := by
  match h with
  | .last (l := l) (w := w) (b := b) label value behind =>
      have positive := value.length_pos
      simp only [List.length_append] at enough
      obtain ⟨fuel, rfl⟩ : ∃ k, fuel = k + 1 := ⟨fuel - 1, by omega⟩
      obtain ⟨mark, closed⟩ := skipBlanks_mark behind (.inr (.inr rfl)) rest
      rw [List.append_assoc, List.append_assoc, readMembers?_label label (value.skipBlanks _),
        readValue?_complete value closed (by omega), Option.bind_some, mark]
      rfl
  | .more (l := l) (w := w) (b := b) (u := u) label value behind later =>
      have positive := value.length_pos
      simp only [List.length_append, List.length_cons] at enough
      obtain ⟨fuel, rfl⟩ : ∃ k, fuel = k + 1 := ⟨fuel - 1, by omega⟩
      obtain ⟨mark, closed⟩ :=
        skipBlanks_mark behind (.inl rfl) (u ++ CodePoint.ofChar '\x7d' :: rest)
      have others :
          readMembers? d fuel _ (skipBlanks (u ++ CodePoint.ofChar '\x7d' :: rest)) = _ :=
        readMembers?_complete later rest (by omega)
      rw [List.append_assoc, List.append_assoc, List.append_assoc, List.cons_append,
        readMembers?_label label (value.skipBlanks _),
        readValue?_complete value closed (by omega), Option.bind_some, mark]
      dsimp only
      rw [if_neg (by decide), if_pos rfl, others]
      rfl

end

/-! ## Documents -/

/-- The value of a text is the one that it denotes. -/
theorem read?_eq_some_iff {t : Text} {v : Value} : read? d t = some v ↔ Denotes d t v := by
  constructor
  · intro h
    obtain ⟨⟨w, rest⟩, read, h⟩ := Option.bind_eq_some_iff.mp h
    dsimp only at h
    split at h
    · rename_i nothing
      cases h
      obtain ⟨a, blank, whole⟩ := blank_front t
      obtain ⟨u, value, front⟩ := readValue?_sound read
      have room : within d.maxDepth (d.maxDepth.getD t.length) = true := by
        cases d.maxDepth with
        | none => rfl
        | some most => exact decide_eq_true (Nat.le_refl most)
      rw [whole, front]
      exact .document room blank value (blank_iff_skipBlanks.mpr nothing)
    · cases h
  · rintro ⟨room, before, value, behind⟩
    rename_i depth a w b
    have deep : Val d (d.maxDepth.getD (a ++ (w ++ b)).length) w v := by
      refine value.mono ?_
      cases limit : d.maxDepth with
      | none =>
          refine .inr ?_
          simp only [Option.getD_none, List.length_append]
          omega
      | some most =>
          rw [limit] at room
          exact .inl (of_decide_eq_true room)
    have closed : Closed (b ++ []) := .append behind .nothing
    rw [List.append_nil] at closed
    have read := readValue?_complete deep closed
      (show 2 * w.length ≤ 2 * (a ++ (w ++ b)).length + 2 + 1 by
        simp only [List.length_append]
        omega)
    rw [read?, skipBlanks_append before, value.skipBlanks, read]
    exact if_pos (blank_iff_skipBlanks.mp behind)

theorem Denotes.unique {t : Text} {v w : Value} (hv : Denotes d t v) (hw : Denotes d t w) :
    v = w :=
  Option.some.inj ((read?_eq_some_iff.mpr hv).symm.trans (read?_eq_some_iff.mpr hw))

/-- A blank text is no JSON, in no dialect. -/
theorem Denotes.not_blank {t : Text} {v : Value} (h : Denotes d t v) : Text.isBlank t = false := by
  cases h with
  | @document _ a w b _ _ _ value _ =>
      obtain ⟨c, mem, solid⟩ := value.solid
      have among : c ∈ a ++ (w ++ b) := List.mem_append_right a (List.mem_append_left b mem)
      exact List.all_eq_false.mpr ⟨c, among, Bool.not_eq_true _ ▸ solid⟩

theorem within_zero (limit : Option Nat) : within limit 0 = true := by
  cases limit with
  | none => rfl
  | some most => exact decide_eq_true (Nat.zero_le most)

theorem Table.denotes {t : Text} {members : Members} (h : Table d t members) :
    Denotes d t (Value.object (resolve members)) := by
  cases h with
  | empty before inside behind =>
      rw [← enclosed_append]
      exact .document (within_zero d.maxDepth) before (.emptyTable inside) behind
  | members room before pairs behind =>
      rw [← enclosed_append]
      exact .document room before (.table pairs) behind

theorem Scalar.not_map {w : Text} {pairs : List (Value × Value)} : ¬ Scalar d w (.map pairs) := by
  intro h
  cases h with
  | named known =>
      simp only [names, List.mem_cons, Prod.mk.injEq, List.not_mem_nil, or_false, reduceCtorEq,
        and_false] at known

/-- A text that denotes a table is the text of an object. -/
theorem Denotes.table {t : Text} {pairs : List (Value × Value)} (h : Denotes d t (.map pairs)) :
    ∃ members, Table d t members ∧ Value.map pairs = Value.object (resolve members) := by
  obtain ⟨room, before, value, behind⟩ := h
  cases value with
  | scalar scalar => exact absurd scalar Scalar.not_map
  | emptyTable inside =>
      rw [enclosed_append]
      exact ⟨[], .empty before inside behind, rfl⟩
  | table pairs =>
      rw [enclosed_append]
      exact ⟨_, .members room before pairs behind, rfl⟩

/-- Of members with the same name the last one counts. -/
theorem get?_resolve (members : Members) (name : Text) :
    Members.get? (resolve members) name = Members.get? members.reverse name := by
  rw [resolve, Members.get?_update]
  exact Option.or_none

end Json

end QueryGateway
