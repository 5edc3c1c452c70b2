import QueryGateway.Proofs.Log.Layers

/-!
# What a line of the log tells of its record

`Shows` goes through the names of a line one by one: what every record has, unless a field has the
name; the fields, unless the report or the place has the name; the report and the place; and nothing
else. Every line that could be written is printable ASCII, so it is one line, and shows its record in
this way (`written_line_shows`).

Each text comes out with the halves of surrogate pairs fused that stand side by side in it, for that
is how JSON spells one character; a text without any comes out as it is (`Text.paired_of_unpaired`).
What has no JSON form comes out as the text it shows, tuples come out as lists (`Value.logged`).

What is NOT here: who has the last word about the name of a member. `Proofs.Log.Identity` has that.
-/

namespace QueryGateway.Log

open Json

/-! ## Name by name -/

/-- One of the members has this name. -/
def Fielded (members : Members) (name : Text) : Prop := name ∈ members.map Prod.fst

instance (members : Members) (name : Text) : Decidable (Fielded members name) :=
  inferInstanceAs (Decidable (_ ∈ _))

/-- What a line says of its record: `found` are the members that are read from it. -/
structure Shows (e : Entry) (message : Text) (fields found : Members) : Prop where
  time : ¬ Fielded fields "timestamp" → found.get? "timestamp" = some (.text e.time.iso)
  level : ¬ Fielded fields "level" → found.get? "level" = some (.text e.levelName.paired)
  logger : ¬ Fielded fields "logger" → found.get? "logger" = some (.text e.logger.paired)
  wording : ¬ Fielded fields "message" → found.get? "message" = some (.text message.paired)
  correlation : ¬ Fielded fields "correlation_id" →
    found.get? "correlation_id" = e.correlationId.map Value.logged
  function : ¬ Fielded fields "function_name" → found.get? "function_name" =
    if e.functionName = [] then none else some (.text e.functionName.paired)
  /-- A field is there unless a later one comes out under the same name, or the report or the place
  takes its place. -/
  field : ∀ before m after, fields = before ++ m :: after →
    (∀ later ∈ after, later.1.paired ≠ m.1.paired) → ¬ Fielded e.closing m.1 →
    found.get? m.1.paired = some m.2.logged
  report : ∀ f, e.failure = some f → found.get? "exception" = some (.text (e.report f).paired)
  place : e.level = debug → found.get? "file" = some (.text e.file.paired) ∧
    found.get? "line" = some (.int e.line) ∧ found.get? "function" = some (.text e.function.paired)
  /-- There is nothing else. -/
  only : ∀ name, (found.get? name).isSome → Fielded (e.own message) name ∨
    (∃ m ∈ fields, m.1.paired = name) ∨ Fielded e.closing name

section Names
variable {e : Entry} {message name : Text} {fields : Members}

theorem said?_closing_of_own (h : name ∈ ownNames) : e.closing.said? name = none := by
  have apart : ∀ n ∈ ownNames, n ∉ closingNames := by decide
  refine Members.said?_of_not_mem (printable_of_mem_own h) fun mem => apart name h ?_
  exact (closing_names e).subset mem

theorem said?_member? {n : Text} {v : Option Value} (plain : n.IsPrintable) :
    (member? n v).said? name = if n = name then v.map Value.logged else none := by
  cases v with
  | none => exact (ite_self none).symm
  | some v =>
      show Members.said? [(n, v)] name = _
      rw [Members.said?_cons, plain.paired_eq]
      rfl

/-- What the first layer says that every record has. -/
theorem said?_own_identity {v : Value} (mem : (name, v) ∈ e.identityMembers message) :
    (e.own message).said? name = some v.logged := by
  have own : (name, v) ∈ e.own message :=
    List.mem_append_left _ (List.mem_append_left _ mem)
  have plain := printable_of_mem_own ((own_names e message).subset (List.mem_map_of_mem own))
  exact Members.said?_of_mem (distinct_own e message) plain own

/-- The members that every record has say nothing about the others. -/
theorem said?_identityMembers (plain : name.IsPrintable)
    (other : name ∉ ["timestamp", "level", "logger", "message"].map Text.ofString) :
    (e.identityMembers message).said? name = none :=
  Members.said?_of_not_mem plain other

theorem said?_own_correlation :
    (e.own message).said? "correlation_id" = e.correlationId.map Value.logged := by
  have plain : Text.IsPrintable "correlation_id" := Text.isPrintable_ofString rfl
  rw [Entry.own, Members.said?_append, Members.said?_append,
    said?_identityMembers plain (by decide), said?_member? plain,
    said?_member? (Text.isPrintable_ofString rfl), if_neg (by decide), if_pos rfl, Option.none_or,
    Option.or_none]

theorem said?_own_function :
    (e.own message).said? "function_name" =
      if e.functionName = [] then none else some (.text e.functionName.paired) := by
  have plain : Text.IsPrintable "function_name" := Text.isPrintable_ofString rfl
  have other : Text.ofString "correlation_id" ≠ Text.ofString "function_name" := by decide
  rw [Entry.own, Members.said?_append, Members.said?_append,
    said?_identityMembers plain (by decide), said?_member? plain,
    said?_member? (Text.isPrintable_ofString rfl), if_pos rfl, if_neg other]
  split <;> rfl

theorem said?_closing_report {f : Failure} (h : e.failure = some f) :
    e.closing.said? "exception" = some (.text (e.report f).paired) := by
  have mem : (Text.ofString "exception", Value.text (e.report f)) ∈ e.closing :=
    List.mem_append_left _ (mem_member?.mpr ⟨rfl, congrArg (Option.map _) h⟩)
  exact Members.said?_of_mem (distinct_closing e) (Text.isPrintable_ofString rfl) mem

theorem said?_closing_place {v : Value} (h : e.level = debug) (mem : (name, v) ∈ e.placeMembers) :
    e.closing.said? name = some v.logged := by
  have closing : (name, v) ∈ e.closing := by
    refine List.mem_append_right _ ?_
    rw [if_pos h]
    exact mem
  have plain := printable_of_mem_closing ((closing_names e).subset (List.mem_map_of_mem closing))
  exact Members.said?_of_mem (distinct_closing e) plain closing

/-- Under a printable name something is said only if a member has that very name. -/
theorem fielded_of_said? {members : Members} (plain : ∀ m ∈ members, m.1.IsPrintable)
    (h : (members.said? name).isSome) : Fielded members name := by
  by_contra absent
  have silent : members.said? name = none := by
    refine Members.said?_of_absent fun m mem same => absent ?_
    rw [(plain m mem).paired_eq] at same
    exact same ▸ List.mem_map_of_mem mem
  rw [silent] at h
  cases h

theorem own_printable : ∀ m ∈ e.own message, m.1.IsPrintable := fun _ mem =>
  printable_of_mem_own ((own_names e message).subset (List.mem_map_of_mem mem))

theorem closing_printable : ∀ m ∈ e.closing, m.1.IsPrintable := fun _ mem =>
  printable_of_mem_closing ((closing_names e).subset (List.mem_map_of_mem mem))

end Names

/-! ## All names -/

section Readers
variable {e : Entry} {message name : Text} {fields found : Members}

/-- The first layer has the word about its names, unless a field has one of them. -/
theorem Layered.own (h : Layered e message fields found) (mem : name ∈ ownNames)
    (free : ¬ Fielded fields name) : found.get? name = (e.own message).said? name := by
  rw [h name, said?_closing_of_own mem, Members.said?_of_not_mem (printable_of_mem_own mem) free]
  rfl

theorem Layered.field (h : Layered e message fields found) {before after : Members}
    {m : Text × Value} (cut : fields = before ++ m :: after)
    (last : ∀ later ∈ after, later.1.paired ≠ m.1.paired) (free : ¬ Fielded e.closing m.1) :
    found.get? m.1.paired = some m.2.logged := by
  have closing : e.closing.said? m.1.paired = none := by
    refine Members.said?_of_absent fun n mem same => free ?_
    rw [(closing_printable n mem).paired_eq] at same
    rw [(closing_printable n mem).eq_of_paired same.symm]
    exact List.mem_map_of_mem mem
  have said : fields.said? m.1.paired = some m.2.logged := by
    rw [cut, Members.said?_append, Members.said?_cons, Members.said?_of_absent last, if_pos rfl]
    rfl
  rw [h, closing, said]
  rfl

theorem Layered.only (h : Layered e message fields found) (name : Text)
    (some : (found.get? name).isSome) : Fielded (e.own message) name ∨
      (∃ m ∈ fields, m.1.paired = name) ∨ Fielded e.closing name := by
  rw [h, Option.isSome_or, Option.isSome_or, Bool.or_eq_true, Bool.or_eq_true] at some
  rcases some with closing | field | own
  · exact .inr (.inr (fielded_of_said? closing_printable closing))
  · by_cases known : ∃ m ∈ fields, m.1.paired = name
    · exact .inr (.inl known)
    · rw [Members.said?_of_absent fun m mem same => known ⟨m, mem, same⟩] at field
      cases field
  · exact .inl (fielded_of_said? own_printable own)

theorem Layered.shows (h : Layered e message fields found) : Shows e message fields found where
  time free := by
    rw [h.own (by decide) free, said?_own_identity (.head _)]
    exact congrArg (fun t => some (Value.text t)) (Text.isPrintable_iso e.time).paired_eq
  level free := by
    rw [h.own (by decide) free]
    exact said?_own_identity (.tail _ (.head _))
  logger free := by
    rw [h.own (by decide) free]
    exact said?_own_identity (.tail _ (.tail _ (.head _)))
  wording free := by
    rw [h.own (by decide) free]
    exact said?_own_identity (.tail _ (.tail _ (.tail _ (.head _))))
  correlation free := by
    rw [h.own (by decide) free]
    exact said?_own_correlation
  function free := by
    rw [h.own (by decide) free]
    exact said?_own_function
  field _ _ _ cut last free := h.field cut last free
  report f failed := by
    rw [h, said?_closing_report failed]
    rfl
  place debugging := by
    refine ⟨?_, ?_, ?_⟩
    · rw [h, said?_closing_place debugging (.head _)]
      rfl
    · rw [h, said?_closing_place debugging (.tail _ (.head _))]
      rfl
    · rw [h, said?_closing_place debugging (.tail _ (.tail _ (.head _)))]
      rfl
  only := h.only

/-- Every line is printable ASCII, and shows its record. -/
theorem written_line_shows {line : Text} (holds : e.Holds fields) (h : e.write = .ok line) :
    line.IsPrintable ∧ ∃ message found, Template.render e.template e.args = .ok message ∧
      read? Dialect.unlimited line = some (Value.object found) ∧ Shows e message fields found := by
  obtain ⟨message, found, rendered, read, layered⟩ := write_read h holds
  exact ⟨write_printable h, message, found, rendered, read, layered.shows⟩

end Readers

/-- Fields of many kinds. -/
def mixedFields : Members :=
  [("user", .thing 0 "<user 7>"),
    ("seen", .list [.bytes [104, 105], .tuple [.int 1, .real (.finite false 4503599627370496 (-53))]]),
    ("file", .text "mine")]

/-- A record of a failure with these fields, at the level of debugging. -/
def failureEntry : Entry where
  time := ⟨2025, 1, 2, 3, 4, 5, 678900⟩
  level := debug
  logger := "app"
  template := "%s failed"
  args := [.text "line\nbreak"]
  correlationId := some (.text "req-1")
  functionName := "gateway"
  context := some (Value.object mixedFields)
  failure := some (.plain "ValueError" "bad")
  file := "app.py"
  line := 1
  function := "f"

theorem failureEntry_holds : failureEntry.Holds mixedFields where
  context := .inl rfl
  distinct := by decide
  values := by
    have half : (Binary64.finite false 4503599627370496 (-53)).Proper := by
      refine ⟨?_, ?_, ?_, .inl ?_⟩ <;> norm_num
    have pair : Loggable (.tuple [.int 1, .real (.finite false 4503599627370496 (-53))]) :=
      .tuple (List.forall_mem_cons.mpr
        ⟨.int 1, List.forall_mem_singleton.mpr (.real fun _ => half)⟩)
    have seen := Loggable.list (List.forall_mem_cons.mpr
      ⟨.bytes [104, 105], List.forall_mem_singleton.mpr pair⟩)
    exact List.forall_mem_cons.mpr ⟨.thing .., List.forall_mem_cons.mpr
      ⟨seen, List.forall_mem_singleton.mpr (.text _)⟩⟩
  id v same := by
    cases same
    exact .text _

theorem written_line_shows_failure :
    ∃ line, failureEntry.Holds mixedFields ∧ failureEntry.write = .ok line ∧ line.IsPrintable ∧
      ∃ message found, Template.render failureEntry.template failureEntry.args = .ok message ∧
        read? Dialect.unlimited line = some (Value.object found) ∧
        Shows failureEntry message mixedFields found := by
  obtain ⟨line, written⟩ := Except.exists_ok (show failureEntry.write.isOk = true by decide +kernel)
  exact ⟨line, failureEntry_holds, written, written_line_shows failureEntry_holds written⟩

/-- The two halves of a surrogate pair. -/
def surrogateHalves : Text := [CodePoint.ofNat 0xD83D, CodePoint.ofNat 0xDE00]

/-- A record the message of which is put together from these halves. -/
def halvesEntry : Entry where
  time := ⟨2025, 1, 2, 3, 4, 5, 678900⟩
  level := info
  logger := "app"
  template := "%s%s"
  args := surrogateHalves.map fun half => .text [half]
  correlationId := none
  functionName := []
  context := none
  failure := none
  file := "app.py"
  line := 1
  function := "f"

/-- The two halves are read as the character that they make together. -/
theorem halved_message_fused :
    ∃ line found, halvesEntry.write = .ok line ∧
      Template.render halvesEntry.template halvesEntry.args = .ok surrogateHalves ∧
      read? Dialect.unlimited line = some (Value.object found) ∧
      found.get? "message" = some (.text [CodePoint.ofNat 0x1F600]) ∧
      found.get? "message" ≠ some (.text surrogateHalves) := by
  obtain ⟨line, written⟩ := Except.exists_ok (show halvesEntry.write.isOk = true by decide +kernel)
  have holds : halvesEntry.Holds [] := ⟨.inr ⟨rfl, rfl⟩, .nil, List.forall_mem_nil _, nofun⟩
  obtain ⟨message, found, rendered, read, layered⟩ := write_read written holds
  have filled : Template.render halvesEntry.template halvesEntry.args = .ok surrogateHalves := by
    rfl
  cases rendered.symm.trans filled
  have fused : found.get? "message" = some (.text [CodePoint.ofNat 0x1F600]) :=
    layered.shows.wording (by decide)
  refine ⟨line, found, written, rendered, read, fused, ?_⟩
  rw [fused]
  intro same
  exact absurd (Value.text.inj (Option.some.inj same)) (by decide)

end QueryGateway.Log
