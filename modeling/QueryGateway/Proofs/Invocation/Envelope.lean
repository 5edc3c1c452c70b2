import QueryGateway.Proofs.Form.Record
import QueryGateway.Proofs.Invocation.Malformed
import QueryGateway.Proofs.Json.RoundTrip

/-!
# The wire form of a query is read as that query

A query that was read from a body can be written, and whoever sends what was written sends the same
query, but for numbers that are not finite: JSON has none, so they arrive as null (`nulled`). Sending
it on a second time changes nothing more.

Which queries a body can hold is said once, by `Sound`: its texts are Unicode text, and its variables
are what a body can hold one level down. From there on the body is forgotten. A sound query is
written from three members, and these are read as that query, whatever spelling and order the first
body had.

What is NOT here: finite floating point numbers among the variables. Whether one comes back depends
on the digits that are printed for it.
-/

namespace QueryGateway.Invocation

open Text

namespace Query

/-- The query with null in the place of each number among its variables that is not finite. -/
def nulled (q : Query) : Query := { q with bindings := q.bindings.nulled }

/-- What the text of a body makes of a query, whatever the body: texts are Unicode text, and the
variables are a table that stands inside another one. -/
structure Sound (q : Query) : Prop where
  text : q.text.IsScalar
  operationName : ∀ t, q.operationName = some t → t.IsScalar
  bindings : Json.Readable 199 (Value.object q.bindings)

/-! ## What is read is sound -/

theorem readable_of_table {v : Value} {bindings : Members} (readable : Json.Readable 199 v)
    (h : Form.nullAsEmpty (Form.table Form.any) v = .ok bindings) :
    Json.Readable 199 (Value.object bindings) := by
  unfold Form.nullAsEmpty at h
  split at h
  · cases h
    exact .emptyObject
  · cases v with
    | map pairs =>
        obtain ⟨members, whole, distinct, -⟩ := readable.table
        rw [whole, Form.table_any distinct] at h
        rw [← Except.ok.inj h, ← whole]
        exact readable
    | _ => cases h

theorem isScalar_of_text {v : Value} {t : Text} (readable : Json.Readable 199 v)
    (h : Form.text v = .ok t) : t.IsScalar := by
  cases readable with
  | text scalar =>
      cases h
      exact scalar
  | _ => cases h

theorem isScalar_of_optionalText {v : Value} {t : Text} (readable : Json.Readable 199 v)
    (h : Form.optionalText v = .ok (some t)) : t.IsScalar := by
  cases readable with
  | text scalar =>
      cases h
      exact scalar
  | _ => cases h

variable {q : Query}

theorem sound_ofMembers {members : Members} (readable : ∀ m ∈ members, Json.Readable 199 m.2)
    (h : ofMembers members = .ok q) : q.Sound := by
  obtain ⟨⟨text, operationName, bindings⟩, fields, rfl⟩ := Except.map_ok (Form.titled_ok h)
  obtain ⟨hasText, others⟩ := Form.both_ok fields
  obtain ⟨hasName, hasBindings⟩ := Form.both_ok others
  refine ⟨?_, fun t named => ?_, ?_⟩
  · obtain ⟨m, mem, read⟩ := Form.required_ok hasText
    exact isScalar_of_text (readable m mem) read
  · cases named
    rcases Form.optional_ok hasName with absent | ⟨m, mem, read⟩
    · cases absent
    · exact isScalar_of_optionalText (readable m mem) read
  · rcases Form.optional_ok hasBindings with rfl | ⟨m, mem, read⟩
    · exact .emptyObject
    · exact readable_of_table (readable m mem) read

theorem sound_ofJson {t : Text} (h : ofJson t = .ok q) : q.Sound := by
  unfold ofJson at h
  split at h
  · cases h
  · rename_i scalar
    have scalar : t.IsScalar := isScalar_iff.mp (by simpa using scalar)
    split at h
    · cases h
    · rename_i pairs read
      obtain ⟨members, whole, -, -, readable⟩ := (Json.readable_read? read scalar).table
      rw [Value.map.inj whole, Form.named_object] at h
      exact sound_ofMembers readable h
    · cases h

/-! ## The members of the wire form -/

/-- The name of an operation as a value: null is no name. -/
def nameValue (name : Option Text) : Value :=
  match name with
  | some t => .text t
  | none => .null

theorem members_eq (q : Query) : q.members = ([("query", .text q.text),
    ("operationName", nameValue q.operationName), ("variables", Value.object q.bindings)] :
      Members) := rfl

theorem forall_mem_members {p : Text × Value → Prop} : (∀ m ∈ q.members, p m) ↔
    p ("query", .text q.text) ∧ p ("operationName", nameValue q.operationName) ∧
      p ("variables", Value.object q.bindings) := by
  rw [members_eq, List.forall_mem_cons, List.forall_mem_cons, List.forall_mem_singleton]

theorem distinct_members : q.members.Distinct := by
  have names : q.members.map Prod.fst = (["query", "operationName", "variables"] : List Text) := rfl
  rw [Members.Distinct, names]
  decide

/-- Of the members only the variables hold numbers. -/
theorem reals_members (q : Query) :
    (Value.object q.members).reals = (Value.object q.bindings).reals := by
  have name : (nameValue q.operationName).reals = [] := by
    cases q.operationName <;> rfl
  rw [members_eq, Value.reals_object]
  simp only [List.flatMap_cons, List.flatMap_nil, List.append_nil, name]
  rfl

theorem nulled_members : q.members.nulled = q.nulled.members := by
  have name : (nameValue q.operationName).nulled = nameValue q.operationName := by
    cases q.operationName <;> rfl
  rw [members_eq, members_eq, Members.nulled]
  simp only [List.map_cons, List.map_nil, Value.nulled_object, name]
  rfl

/-! ## What is sound is read back -/

theorem Sound.readable (h : q.Sound) : Json.Readable 200 (Value.object q.members) := by
  refine .object distinct_members ?_ (forall_mem_members.mpr ⟨.text h.text, ?_, h.bindings⟩)
  · exact forall_mem_members.mpr ⟨isScalar_ofString _, isScalar_ofString _, isScalar_ofString _⟩
  · cases named : q.operationName with
    | none => exact .null
    | some t => exact .text (h.operationName t named)

theorem Sound.nulled (h : q.Sound) : q.nulled.Sound := by
  refine ⟨h.text, h.operationName, ?_⟩
  have readable := h.bindings.nulled
  rwa [Value.nulled_object] at readable

theorem Sound.ofMembers_members (h : q.Sound) : ofMembers q.members = .ok q := by
  obtain ⟨text, operationName, bindings⟩ := q
  have hasName : Form.optionalText (nameValue operationName) = .ok operationName := by
    cases operationName <;> rfl
  have hasBindings : Form.nullAsEmpty (Form.table Form.any) (Value.object bindings) =
      .ok bindings := by
    obtain ⟨members, whole, distinct, -⟩ := Json.Readable.table h.bindings
    cases Value.object_injective whole
    exact Form.table_any distinct
  show Form.titled title ((Form.both (.ok text)
    (Form.both (Form.under (.name "operationName") (Form.optionalText (nameValue operationName)))
      (Form.under (.name "variables") (Form.nullAsEmpty (Form.table Form.any)
        (Value.object bindings))))).map _) = _
  rw [hasName, hasBindings]
  rfl

theorem Sound.ofJson (h : q.Sound) {t : Text} (scalar : t.IsScalar)
    (read : Json.read? Json.Dialect.body t = some (Value.object q.members)) :
    ofJson t = .ok q := by
  rw [Query.ofJson, isScalar_iff.mpr scalar, read]
  show ofMembers (Form.named _) = _
  rw [Form.named_object, h.ofMembers_members]

/-- A table begins with a brace. -/
theorem toJson_isBlank {t : Text} (h : q.toJson = .ok t) : isBlank t = false := by
  obtain ⟨texts, -, rfl⟩ := Except.map_ok h
  rfl

/-! ## Sending a query on -/

/-- A query that was read can be written, and what is written is read as that query with null for
numbers that are not finite. This is written as before; and without numbers nothing is replaced. -/
theorem parse_toJson {body : Option Text} (accepted : parse body = .ok q)
    (quiet : (Value.object q.bindings).Quiet) :
    ∃ t, q.toJson = .ok t ∧ parse (some t) = .ok q.nulled ∧ q.nulled.toJson = .ok t ∧
      ((Value.object q.bindings).Exact → q.nulled = q) := by
  obtain ⟨source, -, -, json⟩ := parse_ok.mp accepted
  have sound := sound_ofJson json
  have quietly : (Value.object q.members).Quiet := by rwa [Value.Quiet, reals_members]
  obtain ⟨t, written, scalar, read⟩ := Json.read?_write sound.readable quietly
  rw [Value.nulled_object, nulled_members] at read
  have again : parse (some t) = .ok q.nulled :=
    parse_ok.mpr ⟨t, rfl, toJson_isBlank written, sound.nulled.ofJson scalar read⟩
  refine ⟨t, written, again, ?_, ?_⟩
  · rw [toJson, ← nulled_members, ← Value.nulled_object, Value.write_nulled]
    exact written
  · intro exact
    have same := exact.nulled_eq sound.bindings
    rw [Value.nulled_object] at same
    rw [nulled, Value.object_injective same]

/-- A body with the second name of the operation, a variable that is given twice, escapes, and
numbers that are not finite in a list and in a table in it. -/
def nestedBody : Text :=
  "\x7b\"query\":\"\x7b a \x7d\", \"operation_name\":\"\\u0041\\n\", \"variables\":" ++
    "\x7b\"x\":1, \"y\":true, \"x\":[NaN, \x7b\"\\ud83d\\ude00\":-Infinity\x7d, null, -20]\x7d\x7d"

theorem parse_toJson_nested :
    ∃ q, parse (some nestedBody) = .ok q ∧
      (Value.object q.bindings).reals = [.nan 0, .infinite true] ∧
      ∃ t, q.toJson = .ok t ∧ parse (some t) = .ok q.nulled ∧ q.nulled.toJson = .ok t ∧
        ((Value.object q.bindings).Exact → q.nulled = q) := by
  have read : ((parse (some nestedBody)).toOption.map fun q => (Value.object q.bindings).reals) =
      some [.nan 0, .infinite true] := by decide +kernel
  cases accepted : parse (some nestedBody) with
  | error f =>
      rw [accepted] at read
      cases read
  | ok q =>
      rw [accepted] at read
      have reals : (Value.object q.bindings).reals = [.nan 0, .infinite true] :=
        Option.some.inj read
      have quiet : (Value.object q.bindings).Quiet := by
        rw [Value.Quiet, reals]
        decide
      exact ⟨q, rfl, reals, parse_toJson accepted quiet⟩

end Query

end QueryGateway.Invocation
