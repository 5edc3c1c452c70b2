import QueryGateway.Proofs.Log.Line

/-!
# Who has the word about the identity of a record

Four members tell what a record is: its time, its level, its logger and its message. They are put
into the line first, and the fields after them, so a field of the same name has the word
(`fields_name_identity`). The id of the invocation is safe from that: it is attached beside the
fields, and none of them can have its name.

What is NOT here: the name of the function. A field can take its place in the same way, but it is no
part of the record.
-/

namespace QueryGateway.Log

open Json

/-- An id and fields are attached to the record. -/
structure Attached (e : Entry) (id : Value) (context : Members) : Prop where
  named : e.correlationId = (extra id context).1
  fielded : e.context = some (Value.object (extra id context).2)

/-- Fields that are attached beside an id: each has its own name, and that of the id is taken. -/
structure BesideId (context : Members) : Prop where
  distinct : context.Distinct
  free : ¬ Fielded context "correlation_id"

section Identity
variable {e : Entry} {id : Value} {context : Members}

theorem extra_snd (id : Value) (context : Members) : (extra id context).2 = context := by
  cases id <;> rfl

theorem mem_extra_fst {v : Value} (h : (extra id context).1 = some v) : v = id := by
  cases id with
  | null => cases h
  | _ => exact (Option.some.inj h).symm

theorem Attached.holds (h : Attached e id context) (beside : BesideId context)
    (values : ∀ m ∈ context, Loggable m.2) (loggable : Loggable id) : e.Holds context where
  context := .inl (by rw [h.fielded, extra_snd])
  distinct := beside.distinct
  values := values
  id v found := mem_extra_fst (h.named.symm.trans found) ▸ loggable

/-- Each of the four members is the record's own unless a field has its name, and the field's if one
has. The id is always the one that was attached. -/
theorem fields_name_identity {line : Text} (attached : Attached e id context)
    (beside : BesideId context) (values : ∀ m ∈ context, Loggable m.2) (loggable : Loggable id)
    (h : e.write = .ok line) :
    ∃ message found, Template.render e.template e.args = .ok message ∧
      read? Dialect.unlimited line = some (Value.object found) ∧
      (∀ m ∈ e.identityMembers message,
        found.get? m.1 = some ((context.get? m.1).getD m.2).logged) ∧
      (id ≠ .null → found.get? "correlation_id" = some id.logged) := by
  obtain ⟨message, found, rendered, read, layered⟩ :=
    write_read h (attached.holds beside values loggable)
  refine ⟨message, found, rendered, read, ?_, ?_⟩
  · intro m mem
    have own : m.1 ∈ ownNames := by
      have front : m ∈ e.own message := List.mem_append_left _ (List.mem_append_left _ mem)
      exact (own_names e message).subset (List.mem_map_of_mem front)
    rw [layered, said?_closing_of_own own, said?_own_identity mem,
      Members.said?_eq_get? beside.distinct (printable_of_mem_own own)]
    cases context.get? m.1 <;> rfl
  · intro given
    rw [layered.shows.correlation beside.free, attached.named, extra_of_ne_null given]
    rfl

end Identity

/-- A record with one field, and the field has the name of a member that every record has. -/
def forgedLevelEntry : Entry where
  time := ⟨2025, 1, 2, 3, 4, 5, 678900⟩
  level := info
  logger := "app"
  template := "hello"
  args := []
  correlationId := (extra (.text "req-1") [("level", .text "FORGED")]).1
  functionName := []
  context := some (Value.object (extra (.text "req-1") [("level", .text "FORGED")]).2)
  failure := none
  file := "app.py"
  line := 1
  function := "f"

theorem forgedLevel_beside : BesideId [("level", .text "FORGED")] := ⟨by decide, by decide⟩

theorem fields_name_identity_forgedLevel :
    ∃ line, Attached forgedLevelEntry (.text "req-1") [("level", .text "FORGED")] ∧
      BesideId [("level", .text "FORGED")] ∧ forgedLevelEntry.write = .ok line ∧
      ∃ message found,
        Template.render forgedLevelEntry.template forgedLevelEntry.args = .ok message ∧
        read? Dialect.unlimited line = some (Value.object found) ∧
        (∀ m ∈ forgedLevelEntry.identityMembers message, found.get? m.1 =
          some ((Members.get? [("level", .text "FORGED")] m.1).getD m.2).logged) ∧
        (Value.text "req-1" ≠ .null → found.get? "correlation_id" =
          some (Value.text "req-1").logged) := by
  obtain ⟨line, written⟩ :=
    Except.exists_ok (show forgedLevelEntry.write.isOk = true by decide +kernel)
  exact ⟨line, ⟨rfl, rfl⟩, forgedLevel_beside, written,
    fields_name_identity ⟨rfl, rfl⟩ forgedLevel_beside (List.forall_mem_singleton.mpr (.text _))
      (.text _) written⟩

/-- The level that is read is the one that the field claims. -/
theorem forged_level_read :
    ∃ line found, Attached forgedLevelEntry (.text "req-1") [("level", .text "FORGED")] ∧
      forgedLevelEntry.write = .ok line ∧ read? Dialect.unlimited line = some (Value.object found) ∧
      found.get? "level" = some (.text "FORGED") ∧ forgedLevelEntry.levelName = "INFO" ∧
      found.get? "level" ≠ some (.text forgedLevelEntry.levelName) := by
  obtain ⟨line, written⟩ :=
    Except.exists_ok (show forgedLevelEntry.write.isOk = true by decide +kernel)
  have attached : Attached forgedLevelEntry (.text "req-1") [("level", .text "FORGED")] :=
    ⟨rfl, rfl⟩
  have holds :=
    attached.holds forgedLevel_beside (List.forall_mem_singleton.mpr (.text _)) (.text _)
  obtain ⟨message, found, -, read, layered⟩ := write_read written holds
  have level : found.get? "level" = some (.text "FORGED") :=
    layered.shows.field [] _ [] rfl (List.forall_mem_nil _) (by decide)
  refine ⟨line, found, attached, written, read, level, rfl, ?_⟩
  rw [level]
  intro same
  exact absurd (Value.text.inj (Option.some.inj same)) (by decide)

end QueryGateway.Log
