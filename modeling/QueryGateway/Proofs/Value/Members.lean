import QueryGateway.Value.Basic

/-!
# Tables that name nothing twice

A table is filled by putting members in one by one, and a name that is there already keeps its
place. So a table that was filled from nothing is `Distinct`, it holds nothing but what was put in,
and filling a table from the members of a distinct one copies it.
-/

namespace QueryGateway

namespace Members

/-- No name is there twice. -/
def Distinct (members : Members) : Prop := (members.map Prod.fst).Nodup

instance (members : Members) : Decidable members.Distinct :=
  inferInstanceAs (Decidable (List.Nodup _))

variable {members more : Members} {name : Text} {v : Value}

/-! ## One member more -/

theorem put_of_new (h : name ∉ members.map Prod.fst) :
    put members name v = members ++ [(name, v)] := by
  induction members with
  | nil => rfl
  | cons m rest ih =>
      obtain ⟨other, later⟩ := not_or.mp (mt List.mem_cons.mpr h)
      rw [put, if_neg (Ne.symm other), ih later]
      rfl

theorem names_put_of_mem (h : name ∈ members.map Prod.fst) :
    (put members name v).map Prod.fst = members.map Prod.fst := by
  induction members with
  | nil => cases h
  | cons m rest ih =>
      rw [put]
      split
      · rfl
      · rename_i other
        have later := (List.mem_cons.mp h).resolve_left (Ne.symm other)
        rw [List.map_cons, ih later]
        rfl

theorem distinct_put (h : members.Distinct) : (put members name v).Distinct := by
  by_cases known : name ∈ members.map Prod.fst
  · rw [Distinct, names_put_of_mem known]
    exact h
  · rw [Distinct, put_of_new known, List.map_append]
    refine List.nodup_append.mpr ⟨h, List.nodup_cons.mpr ⟨List.not_mem_nil, List.nodup_nil⟩, ?_⟩
    rintro a mem b new rfl
    rw [List.mem_singleton.mp new] at mem
    exact known mem

theorem mem_put {m : Text × Value} (h : m ∈ put members name v) : m ∈ members ∨ m = (name, v) := by
  induction members with
  | nil => exact .inr (List.mem_singleton.mp h)
  | cons first rest ih =>
      rw [put] at h
      split at h
      · rename_i same
        rcases List.mem_cons.mp h with new | old
        · exact .inr (same ▸ new)
        · exact .inl (List.mem_cons_of_mem _ old)
      · rcases List.mem_cons.mp h with old | later
        · exact .inl (old ▸ List.mem_cons_self)
        · exact (ih later).imp_left (List.mem_cons_of_mem _)

/-! ## Many members more -/

theorem distinct_update (h : members.Distinct) : (update members more).Distinct := by
  induction more generalizing members with
  | nil => exact h
  | cons m rest ih => exact ih (distinct_put h)

theorem mem_update {m : Text × Value} (h : m ∈ update members more) : m ∈ members ∨ m ∈ more := by
  induction more generalizing members with
  | nil => exact .inl h
  | cons first rest ih =>
      rcases ih h with old | later
      · rcases mem_put old with old | new
        · exact .inl old
        · exact .inr (new ▸ List.mem_cons_self)
      · exact .inr (List.mem_cons_of_mem _ later)

theorem update_of_distinct (h : (members ++ more).Distinct) :
    update members more = members ++ more := by
  induction more generalizing members with
  | nil => exact (List.append_nil members).symm
  | cons m rest ih =>
      have new : m.1 ∉ members.map Prod.fst := by
        rw [Distinct, List.map_append] at h
        exact fun mem => (List.nodup_append.mp h).2.2 m.1 mem m.1 List.mem_cons_self rfl
      show update (put members m.1 m.2) rest = _
      rw [put_of_new new] at *
      rw [ih (by rwa [List.append_assoc]), List.append_assoc]
      rfl

/-! ## Looking a name up -/

theorem mem_of_get? (h : get? members name = some v) : (name, v) ∈ members := by
  obtain ⟨m, found, rfl⟩ := Option.map_eq_some_iff.mp h
  have same := List.find?_some found
  rw [← of_decide_eq_true same]
  exact List.mem_of_find?_eq_some found

theorem get?_cons (m : Text × Value) (rest : Members) (name : Text) :
    get? (m :: rest) name = if m.1 = name then some m.2 else get? rest name := by
  rw [get?, List.find?_cons]
  by_cases same : m.1 = name
  · rw [decide_eq_true same, if_pos same]
    rfl
  · rw [decide_eq_false same, if_neg same]
    rfl

theorem get?_append : get? (members ++ more) name = (get? members name).or (get? more name) := by
  rw [get?, List.find?_append, Option.map_or]
  rfl

theorem get?_put {other : Text} :
    get? (put members name v) other = if name = other then some v else get? members other := by
  induction members with
  | nil => exact get?_cons (name, v) [] other
  | cons m rest ih =>
      rw [put, get?_cons]
      split
      · rename_i same
        rw [get?_cons, same]
        split <;> rfl
      · rename_i different
        rw [get?_cons, ih]
        split
        · rename_i found
          rw [if_neg fun same => different (found.trans same.symm)]
        · rfl

/-- Among the members that were put in the last one counts. -/
theorem get?_update :
    get? (update members more) name = (get? more.reverse name).or (get? members name) := by
  induction more generalizing members with
  | nil => rfl
  | cons m rest ih =>
      show get? (update (put members m.1 m.2) rest) name = _
      rw [ih, get?_put, List.reverse_cons, get?_append, Option.or_assoc, get?_cons]
      split <;> rfl

theorem get?_update_of_distinct (h : more.Distinct) :
    get? (update members more) name = (get? more name).or (get? members name) := by
  have alone : update [] more = more := update_of_distinct h
  have same : get? more.reverse name = get? more name := calc
    get? more.reverse name = (get? more.reverse name).or (get? [] name) := Option.or_none.symm
    _ = get? (update [] more) name := get?_update.symm
    _ = get? more name := congrArg (get? · name) alone
  rw [get?_update, same]

end Members

/-- The members of a table can be told from the value that it is. -/
theorem Value.object_injective {members others : Members}
    (h : Value.object members = Value.object others) : members = others := by
  have members_eq : ∀ m n : Text × Value, (Value.text m.1, m.2) = (Value.text n.1, n.2) → m = n :=
    fun m n same => Prod.ext (Value.text.inj (Prod.mk.inj same).1) (Prod.mk.inj same).2
  exact (List.map_inj_right members_eq).mp (Value.map.inj h)

end QueryGateway
