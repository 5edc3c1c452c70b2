import QueryGateway.Proofs.Json.Document
import QueryGateway.Proofs.Json.Notation

/-!
# What a line of the log tells of a value

A line of the log refuses little. A value without a JSON form is put down as the text that it shows,
wherever it stands inside another value, and the numbers that are not finite have names. So whatever
could be written comes back as the value with such texts in place (`Value.told`), and from there on
it fares like every document: lists for tuples, and one character for two halves of a surrogate pair
side by side (`Loggable.read?_write`).

What is refused is an integer with too many digits and a container that contains itself.

What is NOT here: maps with keys other than texts. They are written, and the key comes back as the
text of it.
-/

namespace QueryGateway

open Text

namespace Value

mutual

/-- The value with a text in the place of each value that has no JSON form, at any depth. What is no
number is told as such, and not which one it is. -/
def told : Value → Value
  | .real (.nan _) => .real (.nan 0)
  | .list items => .list (toldItems items)
  | .tuple items => .tuple (toldItems items)
  | .map members => .map (toldMembers members)
  | .bytes b => .text (shown (.bytes b))
  | .set items => .text (shown (.set items))
  | .thing which t => .text (shown (.thing which t))
  | v => v

/-- Each item as it is told. -/
def toldItems : List Value → List Value
  | [] => []
  | v :: rest => told v :: toldItems rest

/-- Each member with its value as it is told; keys stay what they are. -/
def toldMembers : List (Value × Value) → List (Value × Value)
  | [] => []
  | (k, v) :: rest => (k, told v) :: toldMembers rest

end

theorem toldItems_eq (items : List Value) : toldItems items = items.map told := by
  induction items with
  | nil => rfl
  | cons v rest ih => rw [toldItems, ih, List.map_cons]

theorem told_object (members : Members) :
    (Value.object members).told = Value.object (members.map fun m => (m.1, m.2.told)) := by
  suffices all : toldMembers (members.map fun m => (Value.text m.1, m.2)) =
      (members.map fun m => (m.1, m.2.told)).map fun m => (Value.text m.1, m.2) from
    congrArg Value.map all
  induction members with
  | nil => rfl
  | cons m rest ih => exact congrArg (_ :: ·) ih

/-- What comes out of a line for a value that was put into it. -/
def logged (v : Value) : Value := v.told.asRead

theorem logged_list (items : List Value) :
    (Value.list items).logged = .list (items.map logged) := by
  rw [logged, told, toldItems_eq, asRead_list, List.map_map]
  rfl

end Value

/-- What comes out of a line for members that were put into it, one by one. -/
def Members.logged (members : Members) : Members :=
  members.map fun m => (m.1.paired, m.2.logged)

theorem Value.logged_object (members : Members) :
    (Value.object members).logged = Value.object (Json.resolve members.logged) := by
  rw [logged, told_object, asRead_object, List.map_map]
  rfl

namespace Json

/-- A value that a record may hold: the keys of every map in it are texts, and its finite numbers
are of the format. -/
inductive Loggable : Value → Prop
  | null : Loggable .null
  | bool (b : Bool) : Loggable (.bool b)
  | int (n : Int) : Loggable (.int n)
  | real {x : Binary64} : (x.isFinite = true → x.Proper) → Loggable (.real x)
  | text (t : Text) : Loggable (.text t)
  | bytes (b : Bytes) : Loggable (.bytes b)
  | list {items : List Value} : (∀ v ∈ items, Loggable v) → Loggable (.list items)
  | tuple {items : List Value} : (∀ v ∈ items, Loggable v) → Loggable (.tuple items)
  | set (items : List Value) : Loggable (.set items)
  | object {members : Members} : (∀ m ∈ members, Loggable m.2) → Loggable (Value.object members)
  | endless (isMap : Bool) : Loggable (.endless isMap)
  | thing (which : Nat) (shown : Text) : Loggable (.thing which shown)

section Tells
variable {depth : Nat}

/-- A value is written into a line, and what is written is JSON for what comes out. -/
abbrev Tells : Nat → Value → Text → Prop := Conveys .record Dialect.unlimited Value.logged

theorem tells_int {n : Int} (h : ∃ t, write .record (.int n) = .ok t) :
    Tells depth (.int n) (ofInt n) := by
  obtain ⟨t, written⟩ := h
  refine conveys_int rfl (Nat.not_lt.mp fun long => ?_)
  rw [write_int, integer, if_pos long] at written
  cases written

theorem tells_real {x : Binary64} (proper : x.isFinite = true → x.Proper) :
    ∃ t, Tells depth (.real x) t := by
  cases x with
  | nan => exact ⟨"NaN", conveys_named rfl (.tail _ (.tail _ (.tail _ (.head _)))) rfl⟩
  | infinite negative =>
      cases negative with
      | false =>
          exact ⟨"Infinity", conveys_named rfl (.tail _ (.tail _ (.tail _ (.tail _ (.head _))))) rfl⟩
      | true =>
          have known : (ofString "-Infinity", Value.real (.infinite true)) ∈ names :=
            List.mem_of_getLast? rfl
          exact ⟨"-Infinity", conveys_named rfl known rfl⟩
  | finite negative m e => exact ⟨_, rfl, .scalar (scalar_write (fun _ => rfl) _ (proper rfl))⟩

theorem tells_items {items : List Value}
    (h : ∀ v ∈ items, (∃ t, write .record v = .ok t) → ∃ depth t, Tells depth v t)
    (written : ∃ t, write .record (.list items) = .ok t) :
    ∃ depth t, Tells depth (.list items) t := by
  obtain ⟨t, written⟩ := written
  obtain ⟨ts, each, -⟩ := Except.map_ok written
  refine conveys_list_deep Style.regular_record (Value.logged_list items) ?_
  intro v mem
  exact h v mem (write_of_mem_items each v mem)

theorem Loggable.tells {v : Value} (h : Loggable v) (written : ∃ t, write .record v = .ok t) :
    ∃ depth t, Tells depth v t := by
  induction h with
  | null => exact ⟨0, "null", conveys_named rfl (.head _) rfl⟩
  | bool b => exact ⟨0, conveys_bool rfl⟩
  | int n => exact ⟨0, _, tells_int written⟩
  | real proper => exact ⟨0, tells_real proper⟩
  | text | bytes | set | thing => exact ⟨0, _, conveys_text rfl rfl rfl⟩
  | list _ ih => exact tells_items ih written
  | tuple _ ih =>
      obtain ⟨depth, t, list⟩ := tells_items ih written
      exact ⟨depth, t, list.tuple rfl⟩
  | @object members _ ih =>
      obtain ⟨t, written⟩ := written
      obtain ⟨ts, each, -⟩ := Except.map_ok written
      refine conveys_object_deep Style.regular_record rfl rfl rfl (Value.logged_object members) ?_
      intro m mem
      exact ih m mem (write_of_mem_members each _ (List.mem_map_of_mem mem))
  | endless isMap => exact nomatch written

end Tells

/-- What could be written into a line comes back as it was told. -/
theorem Loggable.read?_write {v : Value} (h : Loggable v) {t : Text}
    (written : write .record v = .ok t) : read? Dialect.unlimited t = some v.logged := by
  obtain ⟨depth, t', tells⟩ := h.tells ⟨t, written⟩
  cases written.symm.trans tells.written
  exact tells.read? rfl

end Json

/-! ## Members under their names -/

theorem Text.IsPrintable.paired_eq {name : Text} (h : name.IsPrintable) : name.paired = name :=
  Text.paired_of_unpaired h.isScalar.unpaired

/-- No other text comes out as a name of printable ASCII characters. -/
theorem Text.IsPrintable.eq_of_paired {t name : Text} (h : name.IsPrintable)
    (same : t.paired = name) : t = name := by
  refine (Text.paired_eq_self fun c mem => ?_).symm.trans same
  have printable := h c (same ▸ mem)
  simp only [CodePoint.isPrintableAscii, Bool.and_eq_true, decide_eq_true_eq] at printable
  omega

namespace Members

variable {members more : Members} {name other : Text} {v : Value}

/-- What a line with these members says under a name. Of members that come out under the same name
the last one counts. -/
def said? (members : Members) (name : Text) : Option Value := get? members.logged.reverse name

theorem get?_resolve_logged : get? (Json.resolve members.logged) name = members.said? name :=
  Json.get?_resolve members.logged name

theorem said?_append : said? (members ++ more) name = (more.said? name).or (members.said? name) := by
  rw [said?, logged, List.map_append, List.reverse_append, get?_append]
  rfl

theorem said?_cons (m : Text × Value) (rest : Members) (name : Text) :
    said? (m :: rest) name =
      (rest.said? name).or (if m.1.paired = name then some m.2.logged else none) := by
  rw [← List.singleton_append, said?_append]
  exact congrArg _ (get?_cons ..)

/-- Nothing is said under a name that no member comes out under. -/
theorem said?_of_absent (h : ∀ m ∈ members, m.1.paired ≠ name) : members.said? name = none := by
  induction members with
  | nil => rfl
  | cons m rest ih =>
      obtain ⟨other, later⟩ := List.forall_mem_cons.mp h
      rw [said?_cons, ih later, if_neg other]
      rfl

theorem said?_of_not_mem (plain : name.IsPrintable) (h : name ∉ members.map Prod.fst) :
    members.said? name = none := by
  refine said?_of_absent fun m mem paired => h ?_
  rw [← plain.eq_of_paired paired]
  exact List.mem_map_of_mem mem

theorem said?_of_mem (distinct : members.Distinct) (plain : name.IsPrintable)
    (mem : (name, v) ∈ members) : members.said? name = some v.logged := by
  induction members with
  | nil => cases mem
  | cons m rest ih =>
      obtain ⟨first, later⟩ := List.nodup_cons.mp distinct
      rw [said?_cons]
      rcases List.mem_cons.mp mem with rfl | behind
      · rw [said?_of_not_mem plain first, if_pos plain.paired_eq]
        rfl
      · rw [ih later behind]
        rfl

/-- Under a printable name the value that a table has under it is said. -/
theorem said?_eq_get? (distinct : members.Distinct) (plain : name.IsPrintable) :
    members.said? name = (members.get? name).map Value.logged := by
  cases found : members.get? name with
  | some v => exact said?_of_mem distinct plain (mem_of_get? found)
  | none =>
      refine said?_of_not_mem plain fun known => ?_
      obtain ⟨m, mem, rfl⟩ := List.mem_map.mp known
      have none := List.find?_eq_none.mp (Option.map_eq_none_iff.mp found) m mem
      exact none (decide_eq_true rfl)

/-- A member in the place of an earlier one is what is said under its name, provided that no other
name comes out as this one. -/
theorem said?_put_of_mem (distinct : members.Distinct) (plain : name.IsPrintable)
    (known : name ∈ members.map Prod.fst) :
    said? (put members name v) other =
      if name.paired = other then some v.logged else members.said? other := by
  induction members with
  | nil => cases known
  | cons m rest ih =>
      obtain ⟨first, later⟩ := List.nodup_cons.mp distinct
      rw [put]
      split
      · rename_i same
        rw [same] at first
        rw [said?_cons, said?_cons, same]
        split
        · rename_i found
          rw [← found, plain.paired_eq, said?_of_not_mem plain first]
          rfl
        · rfl
      · rename_i different
        have behind := (List.mem_cons.mp known).resolve_left (Ne.symm different)
        rw [said?_cons, ih later behind, said?_cons]
        split <;> rfl

/-- So is a member that is put in at the end. -/
theorem said?_put (distinct : members.Distinct)
    (plain : name ∈ members.map Prod.fst → name.IsPrintable) :
    said? (put members name v) other =
      if name.paired = other then some v.logged else members.said? other := by
  by_cases known : name ∈ members.map Prod.fst
  · exact said?_put_of_mem distinct (plain known) known
  · rw [put_of_new known, said?_append, said?_cons]
    split <;> rfl

/-- The members that are put in count before those that were there. -/
theorem said?_update (distinct : members.Distinct) (distinct' : more.Distinct)
    (plain : ∀ m ∈ more, m.1 ∈ members.map Prod.fst → m.1.IsPrintable) :
    said? (update members more) name = (more.said? name).or (members.said? name) := by
  induction more generalizing members with
  | nil => rfl
  | cons m rest ih =>
      obtain ⟨first, later⟩ := List.nodup_cons.mp distinct'
      have each : ∀ n ∈ rest, n.1 ∈ (put members m.1 m.2).map Prod.fst → n.1.IsPrintable := by
        intro n mem put
        obtain ⟨known, found, same⟩ := List.mem_map.mp put
        rcases mem_put found with old | new
        · exact plain n (List.mem_cons_of_mem _ mem) (same ▸ List.mem_map_of_mem old)
        · rw [new] at same
          exact absurd (same ▸ List.mem_map_of_mem mem) first
      show said? (update (put members m.1 m.2) rest) name = _
      rw [ih (distinct_put distinct) later each, said?_put distinct (plain m List.mem_cons_self),
        said?_cons, Option.or_assoc]
      split <;> rfl

end Members

end QueryGateway
