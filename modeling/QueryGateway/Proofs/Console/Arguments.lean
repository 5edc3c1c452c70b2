import QueryGateway.Console.Commands
import QueryGateway.Proofs.Except
import QueryGateway.Proofs.Text.Words

/-!
# What arguments ask for

Reading arguments keeps their texts and their order, and where it stops at an option nothing was asked
for. From it the outcome for the two command lines that matter to the owner of a key: the one that
makes it (`ofArguments_generate`) and the one that checks it (`ofArguments_check`).

An argument that begins with a dash is an option even if it stands where an operand is expected. For
an operand that is made of letters `kindOf_dashed` says which of them are taken for options all the
same: all but those that look like a negative number.
-/

namespace QueryGateway.Console

open Text

/-! ## Items -/

variable {g : Grammar}

theorem misuse_error {α : Type} {message : Text} {stop : Stop}
    (h : (g.misuse message : Except Stop α) = .error stop) : ∃ lines, stop = .misuse lines :=
  ⟨_, (Except.error.inj h).symm⟩

theorem dashedKind_error {t : Text} {stop : Stop} (h : dashedKind g t = .error stop) :
    ∃ lines, stop = .misuse lines := by
  unfold dashedKind at h
  dsimp only at h
  split at h
  · cases h
  · cases h
  · exact misuse_error h

theorem kindOf_error {t : Text} {stop : Stop} (h : kindOf g t = .error stop) :
    ∃ lines, stop = .misuse lines := by
  unfold kindOf at h
  split at h
  · cases h
  split at h
  · cases h
  split at h
  · cases h
  split at h
  · cases h
  split at h
  · split at h
    · cases h
    · exact dashedKind_error h
  · exact dashedKind_error h

theorem itemsOf_error {args : List Text} {stop : Stop} (h : itemsOf g args = .error stop) :
    ∃ lines, stop = .misuse lines := by
  induction args with
  | nil => cases h
  | cons t rest ih =>
      rw [itemsOf] at h
      split at h
      · cases h
      · rcases Except.bind_error h with failed | ⟨kind, -, h⟩
        · exact kindOf_error failed
        · rcases Except.bind_error h with failed | ⟨items, -, h⟩
          · exact ih failed
          · cases h

/-- The items of arguments are the arguments, in their order. -/
theorem itemsOf_texts {args : List Text} {items : List Item} (h : itemsOf g args = .ok items) :
    items.map Prod.fst = args := by
  induction args generalizing items with
  | nil =>
      cases h
      rfl
  | cons t rest ih =>
      rw [itemsOf] at h
      split at h
      · cases h
        rw [List.map_cons, List.map_map]
        exact congrArg (t :: ·) (List.map_id rest)
      · obtain ⟨kind, -, h⟩ := Except.bind_ok h
        obtain ⟨items, later, h⟩ := Except.bind_ok h
        cases h
        rw [List.map_cons, ih later]

theorem itemsOf_cons {t : Text} {rest : List Text} {items : List Item} {kind : Kind}
    (solid : t ≠ "--") (known : kindOf g t = .ok kind) (h : itemsOf g (t :: rest) = .ok items) :
    ∃ later, itemsOf g rest = .ok later ∧ items = (t, some kind) :: later := by
  rw [itemsOf, if_neg solid, known, Except.ok_bind] at h
  obtain ⟨later, read, h⟩ := Except.bind_ok h
  cases h
  exact ⟨later, read, rfl⟩

/-! ## Commands -/

/-- What the command that makes a key takes. -/
def generateGrammar : Grammar :=
  ⟨program ++ " generate", [userFlag, descriptionFlag], none, generateHelp⟩

/-- What the command that checks a key takes. -/
def checkGrammar : Grammar := ⟨program ++ " check", [], some "api_key", checkHelp⟩

/-- Behind a command that is named first, everything is left to that command. -/
theorem readCommand_eq (word : Text) (rest : List Text) (inner : Grammar)
    (solid : word ≠ "--") (plain : kindOf programGrammar word = .ok .plain)
    (known : (commands.find? fun c => c.1 = word) = some (word, inner)) :
    readCommand programGrammar "command" commands (word :: rest) = (do
      let _ ← itemsOf programGrammar rest
      let given ← read inner rest
      match given.extras with
      | [] => .ok (word, given)
      | extras => programGrammar.misuse (leftOverSentence extras)) := by
  cases items : itemsOf programGrammar rest with
  | error stop =>
      rw [readCommand, itemsOf, if_neg solid, plain, Except.ok_bind, items]
      rfl
  | ok later =>
      have split : splitCommand programGrammar [] ((word, some .plain) :: later) =
          .ok (word :: rest, []) := by
        rw [splitCommand, itemsOf_texts items]
      rw [readCommand, itemsOf, if_neg solid, plain, Except.ok_bind, items, Except.ok_bind,
        Except.ok_bind, split, Except.ok_bind]
      simp only [known, List.nil_append]
      rfl

/-! ## Options with values -/

/-- Options, each by its name, with their values. -/
def spelled (options : List (Flag × Text)) : List Text :=
  options.flatMap fun (f, v) => [f.names.headD [], v]

/-- The option takes a value and is known by its name. -/
structure Grammar.Knows (g : Grammar) (f : Flag) : Prop where
  takesValue : f.takesValue = true
  solid : f.names.headD [] ≠ "--"
  known : kindOf g (f.names.headD []) = .ok (.option (some f) .nothing)

theorem itemsOf_plain {t : Text} {rest : List Text} {later : List Item}
    (h : itemsOf g (t :: rest) = .ok ((t, some .plain) :: later)) : itemsOf g rest = .ok later := by
  rw [itemsOf] at h
  split at h
  · cases h
  · obtain ⟨kind, -, h⟩ := Except.bind_ok h
    obtain ⟨items, read, h⟩ := Except.bind_ok h
    cases h
    exact read

/-- An option takes the next argument as its value, if that is not taken for something else. -/
theorem readItems_option {f : Flag} (takes : f.takesValue = true) (given : Given) (t v : Text)
    (kind : Option Kind) (items : List Item) :
    readItems g given ((t, some (.option (some f) .nothing)) :: (v, kind) :: items) =
      match kind with
      | some .plain => readItems g (given.set f v) items
      | _ => g.about f.shown "expected one argument" := by
  rcases kind with _ | _ | ⟨f', attached⟩
  · simp only [readItems, takes, if_true]
  · simp only [readItems, takes, if_true]
  · simp only [readItems, takes, if_true]

/-- Options that are known give their values, in their order, unless a value is taken for something
else; then the command is not run. -/
theorem readItems_spelled {options : List (Flag × Text)} (known : ∀ o ∈ options, g.Knows o.1)
    (given : Given) {items : List Item} (h : itemsOf g (spelled options) = .ok items) :
    readItems g given items = .ok (options.foldl (fun all o => all.set o.1 o.2) given) ∨
      ∃ lines, readItems g given items = .error (.misuse lines) := by
  induction options generalizing given items with
  | nil =>
      cases h
      exact .inl rfl
  | cons o rest ih =>
      obtain ⟨f, v⟩ := o
      obtain ⟨first, later⟩ := List.forall_mem_cons.mp known
      obtain ⟨items, read, rfl⟩ := itemsOf_cons first.solid first.known h
      have texts := itemsOf_texts read
      cases items with
      | nil => cases texts
      | cons item items =>
          obtain ⟨t, kind⟩ := item
          cases (List.cons.inj texts).1
          rw [readItems_option first.takesValue]
          rcases kind with _ | _ | ⟨f', attached⟩
          · exact .inr ⟨_, rfl⟩
          · exact ih later _ (itemsOf_plain read)
          · exact .inr ⟨_, rfl⟩

/-! ## Making a key -/

/-- The options of the command that makes a key. -/
def keyOptions (userId : Text) (description : Option Text) : List (Flag × Text) :=
  (userFlag, userId) :: description.toList.map fun d => (descriptionFlag, d)

/-- The command line that makes a key for a user. -/
def generateArguments (userId : Text) (description : Option Text) : List Text :=
  match description with
  | none => ["generate", "--user-id", userId]
  | some d => ["generate", "--user-id", userId, "--description", d]

theorem generateArguments_eq (userId : Text) (description : Option Text) :
    generateArguments userId description =
      ofString "generate" :: spelled (keyOptions userId description) := by
  cases description with
  | none => rfl
  | some d => rfl

theorem knows_userFlag : generateGrammar.Knows userFlag := ⟨rfl, by decide, rfl⟩

theorem knows_descriptionFlag : generateGrammar.Knows descriptionFlag := ⟨rfl, by decide, rfl⟩

/-- The command line that makes a key asks for just that, unless the user or the description is taken
for something else; then the command is not run. -/
theorem ofArguments_generate (userId : Text) (description : Option Text) :
    Request.ofArguments (generateArguments userId description) = .ok (.generate userId description) ∨
      ∃ lines, Request.ofArguments (generateArguments userId description) =
        .error (.misuse lines) := by
  have command := readCommand_eq "generate" (spelled (keyOptions userId description)) generateGrammar
    (by decide) rfl rfl
  rw [Request.ofArguments, generateArguments_eq, command]
  cases outer : itemsOf programGrammar (spelled (keyOptions userId description)) with
  | error stop =>
      obtain ⟨lines, rfl⟩ := itemsOf_error outer
      exact .inr ⟨lines, rfl⟩
  | ok _ =>
      rw [Except.ok_bind, read]
      cases inner : itemsOf generateGrammar (spelled (keyOptions userId description)) with
      | error stop =>
          obtain ⟨lines, rfl⟩ := itemsOf_error inner
          exact .inr ⟨lines, rfl⟩
      | ok items =>
          have known : ∀ o ∈ keyOptions userId description, generateGrammar.Knows o.1 := by
            refine List.forall_mem_cons.mpr ⟨knows_userFlag, List.forall_mem_map.mpr fun d _ => ?_⟩
            exact knows_descriptionFlag
          rcases readItems_spelled known ⟨[], none, []⟩ inner with given | ⟨lines, failed⟩
          · rw [Except.ok_bind, given]
            cases description with
            | none => exact .inl rfl
            | some d => exact .inl rfl
          · rw [Except.ok_bind, failed]
            exact .inr ⟨lines, rfl⟩

/-! ## Checking a key -/

/-- A text that could be a key: ASCII without the marks that end a name or stand in a number, and
longer than the name of every option. -/
structure KeyLike (t : Text) : Prop where
  plain : ∀ c ∈ t, c.isAscii = true ∧ c ≠ '=' ∧ c ≠ '.' ∧ c ≠ ' '
  long : 6 < t.length

theorem kindOf_of_head {t : Text} (h : t.head? ≠ some (CodePoint.ofChar '-')) :
    kindOf g t = .ok .plain := by
  cases t with
  | nil => rfl
  | cons c rest => exact if_pos fun dash => h (congrArg some dash)

theorem isSome_decimal? {c : CodePoint} (ascii : c.isAscii = true) :
    c.decimal?.isSome = c.isAsciiDigit := by
  rw [CodePoint.decimal?, if_pos ascii]
  split
  · rename_i digit
    exact digit.symm
  · rename_i digit
    exact (Bool.eq_false_iff.mpr digit).symm

/-- Of the short options there is only the one for help. -/
theorem clustered_dashed (bare : g.flags = []) (c : CodePoint) (rest : Text) :
    clustered g (CodePoint.ofChar '-' :: c :: rest) =
      if c = CodePoint.ofChar 'h' then [(ofString "-h", helpFlag, Attached.letters rest)] else [] := by
  have names : g.names = [(ofString "-h", helpFlag), (ofString "--help", helpFlag)] := by
    rw [Grammar.names, bare]
    rfl
  have long : ofString "--help" ≠ [CodePoint.ofChar '-', c] := fun same =>
    nomatch (List.cons.inj (List.cons.inj same).2).2
  unfold clustered
  dsimp only
  rw [names]
  by_cases help : c = CodePoint.ofChar 'h'
  · rw [if_pos help, help]
    rfl
  · have short : ofString "-h" ≠ [CodePoint.ofChar '-', c] := fun same =>
      help (List.cons.inj (List.cons.inj same).2).1.symm
    have letters : List.take 2 (CodePoint.ofChar '-' :: c :: rest) = [CodePoint.ofChar '-', c] := rfl
    rw [if_neg help, letters, List.filter_cons_of_neg (by simpa using short),
      List.filter_cons_of_neg (by simpa using long)]
    rfl

section Dashed
variable {t : Text} (like : KeyLike (CodePoint.ofChar '-' :: t))
include like

theorem isNegativeNumber_dashed :
    isNegativeNumber (CodePoint.ofChar '-' :: t) = t.all CodePoint.isAsciiDigit := by
  obtain ⟨-, plain⟩ := List.forall_mem_cons.mp like.plain
  have noPoint : CodePoint.ofChar '.' ∉ t := fun mem => (plain _ mem).2.2.1 rfl
  have nonempty : t ≠ [] := by
    rintro rfl
    exact absurd like.long (by decide)
  have digits : (t.all fun c => c.decimal?.isSome) = t.all CodePoint.isAsciiDigit := by
    rw [Bool.eq_iff_iff, List.all_eq_true, List.all_eq_true]
    exact forall₂_congr fun c mem => by rw [isSome_decimal? (plain c mem).1]
  have rest : dropStart? "-" (CodePoint.ofChar '-' :: t) = some t := rfl
  rw [isNegativeNumber, rest]
  simp only [cut_of_not_mem noPoint, ne_eq, nonempty, not_false_eq_true, decide_true,
    Bool.true_and, digits]

/-- No option has a name that is as long. -/
theorem length_name_lt (bare : g.flags = []) {n : Text × Flag} (mem : n ∈ g.names) :
    n.1.length < (CodePoint.ofChar '-' :: t).length := by
  have short : ∀ n ∈ (helpFlag.names.map fun n => (n, helpFlag)), n.1.length ≤ 6 := by decide
  rw [Grammar.names, bare] at mem
  exact Nat.lt_of_le_of_lt (short n (by simpa using mem)) like.long

/-- What begins with two dashes is short for no option, and of the short options there is only the
one for help. -/
theorem dashedKind_dashed (bare : g.flags = []) :
    dashedKind g (CodePoint.ofChar '-' :: t) =
      .ok (if t.head? = some (CodePoint.ofChar 'h') then
          .option (some helpFlag) (.letters t.tail)
        else if t.all CodePoint.isAsciiDigit then .plain
        else .option none .nothing) := by
  have noEquals : CodePoint.ofChar '=' ∉ (CodePoint.ofChar '-' :: t) := fun mem =>
    (like.plain _ mem).2.1 rfl
  have noSpace : List.contains (CodePoint.ofChar '-' :: t) (CodePoint.ofChar ' ') = false := by
    rw [List.contains_eq_mem, decide_eq_false_iff_not]
    exact fun mem => (like.plain _ mem).2.2.2 rfl
  have negative := isNegativeNumber_dashed like
  cases t with
  | nil => exact absurd like.long (by decide)
  | cons c rest =>
      unfold dashedKind
      by_cases double : c = CodePoint.ofChar '-'
      · have none : abbreviated g (CodePoint.ofChar '-' :: c :: rest) = [] := by
          rw [abbreviated, cut_of_not_mem noEquals]
          refine List.map_eq_nil_iff.mpr (List.filter_eq_nil_iff.mpr fun n mem => ?_)
          rw [startsWith_of_longer (length_name_lt like bare mem)]
          exact Bool.false_ne_true
        have isLong : startsWith (CodePoint.ofChar '-' :: c :: rest) "--" = true := by
          rw [double]
          rfl
        have noHelp : ¬ c = CodePoint.ofChar 'h' := by
          rw [double]
          decide
        simp only [isLong, none, negative, noSpace, Bool.or_false, if_true, List.head?_cons,
          Option.some.injEq, noHelp, if_false]
      · have isLong : startsWith (CodePoint.ofChar '-' :: c :: rest) "--" = false := by
          refine Bool.eq_false_iff.mpr fun begins => ?_
          obtain ⟨more, dropped⟩ := Option.isSome_iff_exists.mp begins
          exact double (List.cons.inj (List.cons.inj (dropStart?_iff.mp dropped)).2).1
        simp only [isLong, clustered_dashed bare, negative, noSpace, Bool.or_false,
          Bool.false_eq_true, if_false, List.head?_cons, Option.some.injEq, List.tail_cons]
        by_cases help : c = CodePoint.ofChar 'h'
        · simp only [help, if_true]
        · simp only [help, if_false]

/-- What a key that begins with a dash is taken for: an option for help, a number or an unknown
option. -/
theorem kindOf_dashed (bare : g.flags = []) :
    kindOf g (CodePoint.ofChar '-' :: t) =
      .ok (if t.head? = some (CodePoint.ofChar 'h') then
          .option (some helpFlag) (.letters t.tail)
        else if t.all CodePoint.isAsciiDigit then .plain
        else .option none .nothing) := by
  have noEquals : CodePoint.ofChar '=' ∉ (CodePoint.ofChar '-' :: t) := fun mem =>
    (like.plain _ mem).2.1 rfl
  have unnamed : (g.names.find? fun n => n.1 = CodePoint.ofChar '-' :: t) = none := by
    rw [List.find?_eq_none]
    intro n mem same
    exact absurd (congrArg List.length (of_decide_eq_true same))
      (Nat.ne_of_lt (length_name_lt like bare mem))
  have nonempty : t ≠ [] := by
    rintro rfl
    exact absurd like.long (by decide)
  rw [kindOf, if_neg (not_not_intro rfl), unnamed]
  simp only [if_neg nonempty, cut_of_not_mem noEquals]
  exact dashedKind_dashed like bare

end Dashed

/-- Reading ended at the option for help: how the command is used is told, or complained about. -/
def Stop.AtHelp (g : Grammar) (stop : Stop) : Prop :=
  stop = .help g.help ∨ ∃ lines, stop = .misuse lines

/-- Reading ends at the option for help, whatever stands behind it. -/
theorem endWithLetters_error (f : Flag) (t : Text) :
    ∃ stop, (endWithLetters g f t : Except Stop Given) = .error stop ∧ stop.AtHelp g := by
  fun_induction endWithLetters g f t with
  | case1 | case3 | case4 | case5 => exact ⟨_, rfl, .inl rfl⟩
  | case2 | case6 => exact ⟨_, rfl, .inr ⟨_, rfl⟩⟩
  | case7 _ _ _ _ _ _ _ _ _ _ ih => exact ih

theorem itemsOf_singleton {t : Text} {kind : Kind} (solid : t ≠ "--") (known : kindOf g t = .ok kind) :
    itemsOf g [t] = .ok [(t, some kind)] := by
  rw [itemsOf, if_neg solid, known]
  rfl

section Check
variable {key : Text} {kind : Kind} (solid : key ≠ "--") (outer : kindOf programGrammar key = .ok kind)
include solid outer

theorem ofArguments_check_of_read (inner : read checkGrammar [key] = .ok ⟨[], some key, []⟩) :
    Request.ofArguments ["check", key] = .ok (.check key) := by
  have command := readCommand_eq "check" [key] checkGrammar (by decide) rfl rfl
  rw [Request.ofArguments, command, itemsOf_singleton solid outer, inner]
  rfl

theorem ofArguments_check_of_stop {stop : Stop} (inner : read checkGrammar [key] = .error stop) :
    Request.ofArguments ["check", key] = .error stop := by
  have command := readCommand_eq "check" [key] checkGrammar (by decide) rfl rfl
  rw [Request.ofArguments, command, itemsOf_singleton solid outer, inner]
  rfl

end Check

/-- A key that is taken for an operand: it does not begin with a dash, or is a dash with digits behind
it. -/
def IsOperand (key : Text) : Prop :=
  key.head? = some (CodePoint.ofChar '-') → ∀ c ∈ key.tail, c.isAsciiDigit = true

/-- The command line that checks a key asks for just that if the key is taken for an operand; if it is
not, the command is not run. -/
theorem ofArguments_check {key : Text} (like : KeyLike key) :
    (IsOperand key ∧ Request.ofArguments ["check", key] = .ok (.check key)) ∨
      ¬ IsOperand key ∧
        ∃ stop, Request.ofArguments ["check", key] = .error stop ∧ stop.AtHelp checkGrammar := by
  have solid : key ≠ "--" := by
    rintro rfl
    exact absurd like.long (by decide)
  have taken (plain : ∀ g : Grammar, g.flags = [] → kindOf g key = .ok .plain) :
      Request.ofArguments ["check", key] = .ok (.check key) := by
    refine ofArguments_check_of_read solid (plain programGrammar rfl) ?_
    rw [read, itemsOf_singleton solid (plain checkGrammar rfl)]
    rfl
  by_cases dashed : key.head? = some (CodePoint.ofChar '-')
  case neg => exact .inl ⟨fun h => absurd h dashed, taken fun g _ => kindOf_of_head dashed⟩
  obtain ⟨t, rfl⟩ := List.head?_eq_some_iff.mp dashed
  have kinds (g : Grammar) (bare : g.flags = []) := kindOf_dashed (g := g) like bare
  have inner := itemsOf_singleton (g := checkGrammar) solid (kinds checkGrammar rfl)
  have stopped {stop : Stop} (h : read checkGrammar [CodePoint.ofChar '-' :: t] = .error stop) :=
    ofArguments_check_of_stop solid (kinds programGrammar rfl) h
  by_cases help : t.head? = some (CodePoint.ofChar 'h')
  · rw [if_pos help] at inner
    obtain ⟨stop, ends, atHelp⟩ := endWithLetters_error (g := checkGrammar) helpFlag t.tail
    refine .inr ⟨fun operand => ?_, stop, stopped ?_, atHelp⟩
    · obtain ⟨rest, rfl⟩ := List.head?_eq_some_iff.mp help
      exact absurd (operand rfl _ List.mem_cons_self) (by decide)
    · have reads : readItems checkGrammar ⟨[], none, []⟩
          [(CodePoint.ofChar '-' :: t, some (.option (some helpFlag) (.letters t.tail)))] =
            .error stop := ends
      rw [read, inner, Except.ok_bind, reads]
      rfl
  · rw [if_neg help] at inner
    by_cases digits : t.all CodePoint.isAsciiDigit = true
    · refine .inl ⟨fun _ => List.all_eq_true.mp digits, taken fun g bare => ?_⟩
      rw [kinds g bare, if_neg help, if_pos digits]
    · rw [if_neg digits] at inner
      obtain ⟨lines, misused⟩ : ∃ lines,
          read checkGrammar [CodePoint.ofChar '-' :: t] = .error (.misuse lines) := by
        rw [read, inner]
        exact ⟨_, rfl⟩
      exact .inr ⟨fun operand => digits (List.all_eq_true.mpr (operand rfl)), _, stopped misused,
        .inr ⟨lines, rfl⟩⟩

end QueryGateway.Console
