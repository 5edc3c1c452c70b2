import QueryGateway.Form.Field
import QueryGateway.Proofs.Except
import QueryGateway.Proofs.Text.Scalar
import QueryGateway.Proofs.Value.Members

/-!
# Records that are read

What is known of a record that could be read: each field was read from a member of the record, or it
was left out and has its default. And what is read from a table without faults: the table itself, if
it names nothing twice. So what was read once can be written and read again without a change.

A record that could not be read is rejected with complaints, and the complaints of a field do not
depend on the other fields: `Outcome` says of a reading that it gives a value without complaint, or
these complaints and no value, and two readings side by side give the complaints of both, in order.
-/

namespace QueryGateway.Form

open Text

/-! ## Tables -/

theorem table_put (members : Members) (name : Text) (v : Value) :
    table.put members name v = Members.put members name v := by
  induction members with
  | nil => rfl
  | cons m rest ih => rw [table.put, Members.put, ih]

theorem named_object (members : Members) :
    named (members.map fun (k, v) => (Value.text k, v)) = members := by
  rw [named, List.filterMap_map]
  exact List.filterMap_some

theorem each_map_ok {α β γ : Type} {read : β → Reading γ} {g : α → β} {f : α → γ} {as : List α}
    (h : ∀ a ∈ as, read (g a) = .ok (f a)) : each read (as.map g) = .ok (as.map f) := by
  induction as with
  | nil => rfl
  | cons a rest ih =>
      rw [List.map_cons, each, h a List.mem_cons_self,
        ih fun b mem => h b (List.mem_cons_of_mem _ mem)]
      rfl

/-- A distinct table is read as it is. -/
theorem table_any {members : Members} (distinct : members.Distinct) :
    table any (Value.object members) = .ok members := by
  have filled : members.foldl (fun done m => table.put done m.1 m.2) [] = members := by
    simp only [table_put]
    exact Members.update_of_distinct distinct
  rw [Value.object, table, each_map_ok (f := id) fun m mem => ?_, List.map_id]
  · exact congrArg Except.ok filled
  · rfl

/-! ## Fields -/

variable {α β : Type}

theorem under_ok {step : Step} {r : Reading α} {a : α} (h : under step r = .ok a) : r = .ok a := by
  cases r with
  | ok b => exact h
  | error cs => cases h

theorem both_ok {r : Reading α} {s : Reading β} {a : α} {b : β} (h : both r s = .ok (a, b)) :
    r = .ok a ∧ s = .ok b := by
  cases r with
  | error cs => cases s <;> cases h
  | ok a' =>
      cases s with
      | error cs => cases h
      | ok b' =>
          cases h
          exact ⟨rfl, rfl⟩

theorem titled_ok {title : Text} {r : Reading α} {a : α} (h : titled title r = .ok a) :
    r = .ok a := by
  cases r with
  | error cs => cases h
  | ok b =>
      cases h
      rfl

theorem mem_of_find? {members : Members} {names : List Text} {name : Text} {v : Value}
    (h : find? members names = some (name, v)) : (name, v) ∈ members := by
  induction names with
  | nil => cases h
  | cons first more ih =>
      rw [find?] at h
      split at h
      · rename_i found
        cases h
        exact Members.mem_of_get? found
      · exact ih h

theorem required_ok {members : Members} {names : List Text} {read : Value → Reading α} {a : α}
    (h : required members names read = .ok a) : ∃ m ∈ members, read m.2 = .ok a := by
  unfold required at h
  split at h
  · rename_i name v found
    exact ⟨(name, v), mem_of_find? found, under_ok h⟩
  · cases h

theorem optional_ok {members : Members} {names : List Text} {default : α}
    {read : Value → Reading α} {a : α} (h : optional members names default read = .ok a) :
    a = default ∨ ∃ m ∈ members, read m.2 = .ok a := by
  unfold optional at h
  split at h
  · rename_i name v found
    exact .inr ⟨(name, v), mem_of_find? found, under_ok h⟩
  · cases h
    exact .inl rfl

section Names
variable {members others : Members} {names : List Text}

theorem find?_congr (same : ∀ name ∈ names, members.get? name = others.get? name) :
    find? members names = find? others names := by
  induction names with
  | nil => rfl
  | cons first more ih =>
      obtain ⟨here, later⟩ := List.forall_mem_cons.mp same
      rw [find?, find?, here, ih later]

/-- A field looks at no members but those of its own names. -/
theorem optional_congr (same : ∀ name ∈ names, members.get? name = others.get? name) (default : α)
    (read : Value → Reading α) :
    optional members names default read = optional others names default read := by
  rw [optional, optional, find?_congr same]

end Names

/-! ## Complaints -/

/-- A reading comes to something good without a complaint, or to these complaints. -/
inductive Outcome (r : Reading α) (good : α → Prop) : List Complaint → Prop
  | ok {a : α} : r = .ok a → good a → Outcome r good []
  | error {c : Complaint} {cs : List Complaint} : r = .error (c :: cs) → Outcome r good (c :: cs)

variable {r : Reading α} {s : Reading β} {good : α → Prop} {fine : β → Prop}
  {cs ds : List Complaint}

theorem Outcome.both (hr : Outcome r good cs) (hs : Outcome s fine ds) :
    Outcome (Form.both r s) (fun p => good p.1 ∧ fine p.2) (cs ++ ds) := by
  cases hr with
  | ok read isGood =>
      cases hs with
      | ok read' isFine => exact .ok (by rw [read, read']; rfl) ⟨isGood, isFine⟩
      | error faults => exact .error (by rw [read, faults]; rfl)
  | error faults =>
      cases hs with
      | ok read' isFine =>
          rw [List.append_nil]
          exact .error (by rw [faults, read']; rfl)
      | error faults' => exact .error (by rw [faults, faults']; rfl)

theorem Outcome.map {f : α → β} (h : Outcome r good cs) (keeps : ∀ a, good a → fine (f a)) :
    Outcome (r.map f) fine cs := by
  cases h with
  | ok read isGood => exact .ok (by rw [read]; rfl) (keeps _ isGood)
  | error faults => exact .error (by rw [faults]; rfl)

/-- A record is read, or it is rejected with all the complaints about its fields. -/
theorem Outcome.titled {title : Text} (h : Outcome r good cs) :
    (cs = [] ∧ ∃ a, Form.titled title r = .ok a ∧ good a) ∨
      cs ≠ [] ∧ Form.titled title r = .error ⟨title, cs⟩ := by
  cases h with
  | ok read isGood => exact .inl ⟨rfl, _, by rw [read]; rfl, isGood⟩
  | error faults => exact .inr ⟨List.cons_ne_nil _ _, by rw [faults]; rfl⟩

end QueryGateway.Form
