import QueryGateway.Log.Line
import QueryGateway.Proofs.Json.Told

/-!
# The layers of a line

The members of a line are put together in three layers, and a layer gives way to the next one: the
members that a record has without its fields (`Entry.own`), the fields that were attached to it, and
the report and the place (`Entry.closing`). Put in one by one, they are a table with texts as names,
and the line is its JSON text (`write_eq_ok`). So what a reader finds under a name is what the last
layer says that knows the name (`write_read`).

Names are compared as they come out. Two names can come out as one, where halves of a surrogate pair
stand side by side in one of them. But the names of the first layer and the last are printable ASCII,
and no other name comes out as one of those.

What is NOT here: fields that come as something else than a table with texts as names. They are put
in like the others, if they can be. That a line is printable ASCII holds with them too
(`write_printable`).
-/

namespace QueryGateway.Log

open Json

/-! ## Tables with texts as names -/

/-- The table of members. -/
def Table.of (members : Members) : Table := members.map fun (k, v) => (Value.text k, v)

section Tables
variable {members more : Members} {name : Text} {v : Value}

theorem Table.putText_of :
    (Table.of members).putText name v = Table.of (members.put name v) := by
  induction members with
  | nil => rfl
  | cons m rest ih =>
      show (if decide (m.1 = name) then (Value.text m.1, v) :: Table.of rest
        else (Value.text m.1, m.2) :: (Table.of rest).putText name v) = _
      rw [ih, Members.put]
      by_cases same : m.1 = name
      · rw [decide_eq_true same, if_pos rfl, if_pos same]
        rfl
      · rw [decide_eq_false same, if_neg Bool.false_ne_true, if_neg same]
        rfl

theorem Table.putAll_of :
    (Table.of members).putAll (Table.of more) = .ok (Table.of (members.update more)) := by
  induction more generalizing members with
  | nil => rfl
  | cons m rest ih =>
      show ((Table.of members).putText m.1 m.2).putAll (Table.of rest) = _
      rw [Table.putText_of, ih]
      rfl

end Tables

/-! ## The layers -/

/-- A member that may be missing. -/
def member? (name : Text) (v : Option Value) : Members := v.toList.map (name, ·)

/-- The members that every record has. -/
def Entry.identityMembers (e : Entry) (message : Text) : Members :=
  [("timestamp", .text e.time.iso), ("level", .text e.levelName), ("logger", .text e.logger),
    ("message", .text message)]

/-- The members that a record has without its fields. -/
def Entry.own (e : Entry) (message : Text) : Members :=
  e.identityMembers message ++ member? "correlation_id" e.correlationId ++
    member? "function_name" (if e.functionName = [] then none else some (.text e.functionName))

/-- Where a record was written. -/
def Entry.placeMembers (e : Entry) : Members :=
  [("file", .text e.file), ("line", .int e.line), ("function", .text e.function)]

/-- The members that take the place of fields. -/
def Entry.closing (e : Entry) : Members :=
  member? "exception" (e.failure.map fun f => .text (e.report f)) ++
    if e.level = debug then e.placeMembers else []

/-- All members of a line. -/
def Entry.members (e : Entry) (message : Text) (fields : Members) : Members :=
  ((e.own message).update fields).update e.closing

/-- The names of the first layer. -/
def ownNames : List Text :=
  ["timestamp", "level", "logger", "message", "correlation_id", "function_name"].map Text.ofString

/-- The names of the last layer. -/
def closingNames : List Text := ["exception", "file", "line", "function"].map Text.ofString

theorem printable_of_mem_own {name : Text} (h : name ∈ ownNames) : name.IsPrintable := by
  obtain ⟨s, mem, rfl⟩ := List.mem_map.mp h
  have each : ∀ s ∈ ["timestamp", "level", "logger", "message", "correlation_id", "function_name"],
      (s.toList.all fun x => (CodePoint.ofChar x).isPrintableAscii) = true := by decide
  exact Text.isPrintable_ofString (each s mem)

theorem printable_of_mem_closing {name : Text} (h : name ∈ closingNames) : name.IsPrintable := by
  obtain ⟨s, mem, rfl⟩ := List.mem_map.mp h
  have each : ∀ s ∈ ["exception", "file", "line", "function"],
      (s.toList.all fun x => (CodePoint.ofChar x).isPrintableAscii) = true := by decide
  exact Text.isPrintable_ofString (each s mem)

theorem mem_member? {name : Text} {v : Option Value} {m : Text × Value} :
    m ∈ member? name v ↔ m.1 = name ∧ v = some m.2 := by
  rw [member?, List.mem_map]
  constructor
  · rintro ⟨w, mem, rfl⟩
    exact ⟨rfl, Option.mem_toList.mp mem⟩
  · rintro ⟨rfl, found⟩
    exact ⟨m.2, Option.mem_toList.mpr found, rfl⟩

theorem member?_names (name : Text) (v : Option Value) :
    ((member? name v).map Prod.fst).Sublist [name] := by
  cases v with
  | none => exact List.nil_sublist _
  | some v => exact List.Sublist.refl _

section Layers
variable (e : Entry) (message : Text)

theorem own_names : ((e.own message).map Prod.fst).Sublist ownNames := by
  rw [Entry.own, List.map_append, List.map_append]
  exact ((List.Sublist.refl _).append (member?_names _ _)).append (member?_names _ _)

theorem closing_names : (e.closing.map Prod.fst).Sublist closingNames := by
  rw [Entry.closing, List.map_append]
  refine (member?_names _ _).append ?_
  split
  · exact List.Sublist.refl _
  · exact List.nil_sublist _

theorem distinct_own : (e.own message).Distinct := by
  have distinct : ownNames.Nodup := by decide
  exact distinct.sublist (own_names e message)

theorem distinct_closing : e.closing.Distinct := by
  have distinct : closingNames.Nodup := by decide
  exact distinct.sublist (closing_names e)

theorem base_eq : e.base message = Table.of (e.own message) := by
  have identity : e.identity message = Table.of (e.identityMembers message) := rfl
  rw [Entry.base, Entry.own, identity]
  cases e.correlationId <;> split <;> simp only [Table.putText_of] <;> rfl

theorem close_eq (members : Members) :
    e.close (Table.of members) = Table.of (members.update e.closing) := by
  rw [Entry.close, Entry.closing]
  cases e.failure <;> split <;> simp only [Table.putText_of] <;> rfl

end Layers

/-! ## The line -/

/-- The record holds these fields, if any, and nothing but values that a record may hold. -/
structure Entry.Holds (e : Entry) (fields : Members) : Prop where
  context : e.context = some (Value.object fields) ∨ e.context = none ∧ fields = []
  distinct : fields.Distinct
  values : ∀ m ∈ fields, Loggable m.2
  id : ∀ v, e.correlationId = some v → Loggable v

section Lines
variable {e : Entry} {fields : Members} {line message : Text}

theorem table_eq (context : e.context = some (Value.object fields) ∨ e.context = none ∧ fields = [])
    (rendered : Template.render e.template e.args = .ok message) :
    e.table = .ok (Table.of (e.members message fields)) := by
  rw [Entry.table, rendered, Except.ok_bind, base_eq]
  rcases context with attached | ⟨none, rfl⟩
  · rw [attached]
    show ((Table.of (e.own message)).putAll (Table.of fields) >>= fun table =>
      Except.ok (e.close table)) = _
    rw [Table.putAll_of, Except.ok_bind, close_eq]
    rfl
  · rw [none]
    show Except.ok (e.close (Table.of (e.own message))) = _
    rw [close_eq]
    rfl

theorem exists_table (h : e.write = .ok line) :
    ∃ table, e.table = .ok table ∧ Json.write .record (.map table) = .ok line := by
  obtain ⟨table, made, written⟩ := Except.bind_ok h
  refine ⟨table, made, ?_⟩
  split at written
  · rename_i text written'
    cases written
    exact written'
  · cases written

/-- Whatever a record holds, its line is printable ASCII. -/
theorem write_printable (h : e.write = .ok line) : line.IsPrintable := by
  obtain ⟨table, -, written⟩ := exists_table h
  exact isPrintable_write Style.record_printable _ written

/-- A line is the JSON text of all members of its record. -/
theorem write_eq_ok (h : e.write = .ok line)
    (context : e.context = some (Value.object fields) ∨ e.context = none ∧ fields = []) :
    ∃ message, Template.render e.template e.args = .ok message ∧
      Json.write .record (Value.object (e.members message fields)) = .ok line := by
  obtain ⟨table, made, written⟩ := exists_table h
  obtain ⟨message, rendered, -⟩ := Except.bind_ok made
  cases made.symm.trans (table_eq context rendered)
  exact ⟨message, rendered, written⟩

theorem own_loggable (id : ∀ v, e.correlationId = some v → Loggable v) :
    ∀ m ∈ e.own message, Loggable m.2 := by
  intro m mem
  rcases List.mem_append.mp mem with front | function
  · rcases List.mem_append.mp front with identity | found
    · simp only [Entry.identityMembers, List.mem_cons, List.not_mem_nil, or_false] at identity
      rcases identity with rfl | rfl | rfl | rfl <;> exact .text _
    · exact id m.2 (mem_member?.mp found).2
  · have named := (mem_member?.mp function).2
    split at named
    · cases named
    · exact Option.some.inj named ▸ .text _

theorem closing_loggable : ∀ m ∈ e.closing, Loggable m.2 := by
  intro m mem
  rcases List.mem_append.mp mem with report | place
  · obtain ⟨f, -, same⟩ := Option.map_eq_some_iff.mp (mem_member?.mp report).2
    exact same ▸ .text _
  · split at place
    · simp only [Entry.placeMembers, List.mem_cons, List.not_mem_nil, or_false] at place
      rcases place with rfl | rfl | rfl
      · exact .text _
      · exact .int _
      · exact .text _
    · cases place

theorem Entry.Holds.loggable (h : e.Holds fields) :
    Loggable (Value.object (e.members message fields)) := by
  refine .object fun m mem => ?_
  rcases Members.mem_update mem with front | closing
  · rcases Members.mem_update front with own | field
    · exact own_loggable h.id m own
    · exact h.values m field
  · exact closing_loggable m closing

/-- The last layer that knows a name has the word. -/
theorem said?_members (distinct : fields.Distinct) (name : Text) :
    (e.members message fields).said? name =
      (e.closing.said? name).or ((fields.said? name).or ((e.own message).said? name)) := by
  have own := distinct_own e message
  rw [Entry.members, Members.said?_update (Members.distinct_update own) (distinct_closing e),
    Members.said?_update own distinct]
  · intro m _ mem
    exact printable_of_mem_own ((own_names e message).subset mem)
  · intro m mem _
    exact printable_of_mem_closing ((closing_names e).subset (List.mem_map_of_mem mem))

/-- The members that are read, layer upon layer. -/
def Layered (e : Entry) (message : Text) (fields found : Members) : Prop :=
  ∀ name, found.get? name =
    (e.closing.said? name).or ((fields.said? name).or ((e.own message).said? name))

/-- What is read from a line. -/
theorem write_read (h : e.write = .ok line) (holds : e.Holds fields) :
    ∃ message found, Template.render e.template e.args = .ok message ∧
      read? Dialect.unlimited line = some (Value.object found) ∧
      Layered e message fields found := by
  obtain ⟨message, rendered, written⟩ := write_eq_ok h holds.context
  refine ⟨message, Json.resolve (e.members message fields).logged, rendered, ?_, fun name => ?_⟩
  · rw [holds.loggable.read?_write written, Value.logged_object]
  · rw [Members.get?_resolve_logged, said?_members holds.distinct]

end Lines

end QueryGateway.Log
