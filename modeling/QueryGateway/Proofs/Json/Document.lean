import QueryGateway.Proofs.Json.Spelling
import QueryGateway.Proofs.Json.Written

/-!
# Documents, and what becomes of them

A document is made of null, truth values, integers, texts of any code points, lists and tuples, and
tables with texts as names. Every document can be written into a response, and what is written is
JSON for it (`Document.read?_write`). What comes out is the document with lists in the place of
tuples (`Value.listed`).

There is one way in which a text can come out different: two halves of a surrogate pair that stand
side by side are escaped one after the other, which is how JSON spells the character that they make
together. `Value.asRead` says what comes out of any document, and it is the document itself unless
somewhere a first half stands directly before a second half (`Document.asRead_eq`).

Which values cannot be written is a list of their faults, at any depth (`Unwritable`), and the list
is complete (`write_fails_iff`).

What is NOT here: what the text of a finite floating point number is read as. Values with such
numbers are no documents, but they are covered by the list of faults.
-/

namespace QueryGateway

open Text

/-! ## What comes out -/

namespace Value

mutual

/-- The value with lists in the place of tuples. -/
def listed : Value → Value
  | .list items | .tuple items => .list (listedItems items)
  | .map members => .map (listedMembers members)
  | v => v

/-- Each item with lists in the place of tuples. -/
def listedItems : List Value → List Value
  | [] => []
  | v :: rest => listed v :: listedItems rest

/-- Each member with lists in the place of tuples; keys stay what they are. -/
def listedMembers : List (Value × Value) → List (Value × Value)
  | [] => []
  | (k, v) :: rest => (k, listed v) :: listedMembers rest

end

mutual

/-- What comes out of a document: lists for tuples, and one character for two halves of a surrogate
pair that stand side by side. -/
def asRead : Value → Value
  | .text t => .text t.paired
  | .list items | .tuple items => .list (asReadItems items)
  | .map members => Value.object (Json.resolve (asReadMembers members))
  | v => v

/-- What comes out of each item. -/
def asReadItems : List Value → List Value
  | [] => []
  | v :: rest => asRead v :: asReadItems rest

/-- What comes out of each member with a text as its name. -/
def asReadMembers : List (Value × Value) → Members
  | [] => []
  | (.text k, v) :: rest => (k.paired, asRead v) :: asReadMembers rest
  | _ :: rest => asReadMembers rest

end

theorem listedItems_eq (items : List Value) : listedItems items = items.map listed := by
  induction items with
  | nil => rfl
  | cons v rest ih => rw [listedItems, ih, List.map_cons]

theorem asReadItems_eq (items : List Value) : asReadItems items = items.map asRead := by
  induction items with
  | nil => rfl
  | cons v rest ih => rw [asReadItems, ih, List.map_cons]

theorem asRead_list (items : List Value) :
    (Value.list items).asRead = .list (items.map asRead) := by
  rw [asRead, asReadItems_eq]

theorem listed_object (members : Members) :
    (Value.object members).listed = Value.object (members.map fun m => (m.1, m.2.listed)) := by
  suffices all : listedMembers (members.map fun m => (Value.text m.1, m.2)) =
      (members.map fun m => (m.1, m.2.listed)).map fun m => (Value.text m.1, m.2) from
    congrArg Value.map all
  induction members with
  | nil => rfl
  | cons m rest ih => exact congrArg (_ :: ·) ih

theorem asRead_object (members : Members) :
    (Value.object members).asRead =
      Value.object (Json.resolve (members.map fun m => (m.1.paired, m.2.asRead))) := by
  suffices all : asReadMembers (members.map fun m => (Value.text m.1, m.2)) =
      members.map fun m => (m.1.paired, m.2.asRead) from
    congrArg (fun ms => Value.object (Json.resolve ms)) all
  induction members with
  | nil => rfl
  | cons m rest ih => exact congrArg (_ :: ·) ih

end Value

namespace Json

/-! ## Documents -/

/-- An integer with more digits than are written. -/
def TooLong (n : Int) : Prop := maxDigits < (ofNat n.natAbs).length

instance (n : Int) : Decidable (TooLong n) := inferInstanceAs (Decidable (_ < _))

/-- A document, the texts and names of which fit. -/
inductive Document (fit : Text → Prop) : Value → Prop
  | null : Document fit .null
  | bool (b : Bool) : Document fit (.bool b)
  | int {n : Int} : ¬ TooLong n → Document fit (.int n)
  | text {t : Text} : fit t → Document fit (.text t)
  | list {items : List Value} : (∀ v ∈ items, Document fit v) → Document fit (.list items)
  | tuple {items : List Value} : (∀ v ∈ items, Document fit v) → Document fit (.tuple items)
  | object {members : Members} : members.Distinct → (∀ m ∈ members, fit m.1) →
      (∀ m ∈ members, Document fit m.2) → Document fit (Value.object members)

/-- A document in which any texts may occur. -/
abbrev AnyDocument : Value → Prop := Document fun _ => True

/-- A document in which every half of a surrogate pair is alone. -/
abbrev LoneDocument : Value → Prop := Document Text.Unpaired

theorem Document.mono {fit fit' : Text → Prop} (weaker : ∀ t, fit t → fit' t) {v : Value}
    (h : Document fit v) : Document fit' v := by
  induction h with
  | null => exact .null
  | bool b => exact .bool b
  | int short => exact .int short
  | text fits => exact .text (weaker _ fits)
  | list _ ih => exact .list ih
  | tuple _ ih => exact .tuple ih
  | object distinct names _ ih => exact .object distinct (fun m mem => weaker _ (names m mem)) ih

theorem map_asRead_eq {items : List Value} (h : ∀ v ∈ items, v.asRead = v.listed) :
    Value.asReadItems items = Value.listedItems items := by
  rw [Value.asReadItems_eq, Value.listedItems_eq, List.map_congr_left h]

/-- A document comes out as it is, with lists for tuples, if all halves of surrogate pairs are
alone. -/
theorem Document.asRead_eq {v : Value} (h : LoneDocument v) : v.asRead = v.listed := by
  induction h with
  | null | bool | int => rfl
  | text alone => exact congrArg Value.text (Text.paired_of_unpaired alone)
  | list _ ih => rw [Value.asRead, Value.listed, map_asRead_eq ih]
  | tuple _ ih => rw [Value.asRead, Value.listed, map_asRead_eq ih]
  | @object members distinct alone _ ih =>
      have same : members.map (fun m => (m.1.paired, m.2.asRead)) =
          members.map fun m => (m.1, m.2.listed) :=
        List.map_congr_left fun m mem =>
          Prod.ext (Text.paired_of_unpaired (alone m mem)) (ih m mem)
      have distinct' : Members.Distinct (members.map fun m => (m.1, m.2.listed)) := by
        rw [Members.Distinct, List.map_map]
        exact distinct
      rw [Value.asRead_object, Value.listed_object, same]
      exact congrArg Value.object (Members.update_of_distinct distinct')

/-! ## Documents are written as JSON -/

/-- A document is written into a response, and what is written is JSON for what comes out. -/
theorem Document.conveys {fit : Text → Prop} {v : Value} (h : Document fit v) :
    ∃ depth t, Conveys .response Dialect.unlimited Value.asRead depth v t := by
  induction h with
  | null => exact ⟨0, "null", conveys_named rfl (.head _) rfl⟩
  | bool b => exact ⟨0, conveys_bool rfl⟩
  | int short => exact ⟨0, _, conveys_int rfl (Nat.not_lt.mp short)⟩
  | text _ => exact ⟨0, _, conveys_text rfl rfl rfl⟩
  | @list items _ ih => exact conveys_list_deep Style.regular_response (Value.asRead_list items) ih
  | @tuple items _ ih =>
      obtain ⟨depth, t, list⟩ :=
        conveys_list_deep Style.regular_response (Value.asRead_list items) ih
      exact ⟨depth, t, list.tuple rfl⟩
  | @object members _ _ _ ih =>
      exact conveys_object_deep Style.regular_response rfl rfl rfl (Value.asRead_object members) ih

/-- Every document is written, and what is written is read. -/
theorem Document.read?_write {fit : Text → Prop} {v : Value} (h : Document fit v) :
    ∃ t, write .response v = .ok t ∧ read? Dialect.unlimited t = some v.asRead := by
  obtain ⟨depth, t, conveys⟩ := h.conveys
  exact ⟨t, conveys.written, conveys.read? rfl⟩

/-! ## What cannot be written -/

/-- The kinds of values that can name a member. -/
def canName : Value → Bool
  | .text _ | .int _ | .real _ | .bool _ | .null => true
  | _ => false

/-- A key that is no name: one of another kind, or a number that has no text. -/
inductive BadName : Value → Prop
  | kind {v : Value} : canName v = false → BadName v
  | notFinite {x : Binary64} : x.isFinite = false → BadName (.real x)
  | tooLong {n : Int} : TooLong n → BadName (.int n)

/-- A value that cannot be written, or holds one at any depth. -/
inductive Unwritable : Value → Prop
  | notFinite {x : Binary64} : x.isFinite = false → Unwritable (.real x)
  | tooLong {n : Int} : TooLong n → Unwritable (.int n)
  | bytes (b : Bytes) : Unwritable (.bytes b)
  | set (items : List Value) : Unwritable (.set items)
  | thing (which : Nat) (shown : Text) : Unwritable (.thing which shown)
  | endless (isMap : Bool) : Unwritable (.endless isMap)
  | item {v : Value} {items : List Value} : v ∈ items → Unwritable v → Unwritable (.list items)
  | part {v : Value} {items : List Value} : v ∈ items → Unwritable v → Unwritable (.tuple items)
  | name {m : Value × Value} {members : List (Value × Value)} : m ∈ members → BadName m.1 →
      Unwritable (.map members)
  | member {m : Value × Value} {members : List (Value × Value)} : m ∈ members →
      Unwritable m.2 → Unwritable (.map members)

theorem integer_fails_iff {n : Int} : (∃ fault, integer n = .error fault) ↔ TooLong n := by
  unfold integer TooLong
  dsimp only
  split
  · rename_i long
    exact ⟨fun _ => long, fun _ => ⟨_, rfl⟩⟩
  · rename_i short
    exact ⟨fun ⟨_, h⟩ => (nomatch h), fun long => absurd long short⟩

theorem real_fails_iff {x : Binary64} :
    (∃ fault, real .response x = .error fault) ↔ x.isFinite = false := by
  unfold real
  cases x.isFinite with
  | true => exact ⟨fun ⟨_, h⟩ => (nomatch h), fun h => nomatch h⟩
  | false => exact ⟨fun _ => rfl, fun _ => ⟨.notFinite, rfl⟩⟩

theorem name_fails_iff {k : Value} : (∃ fault, name .response k = .error fault) ↔ BadName k := by
  cases k with
  | null | bool | text =>
      constructor
      · exact fun ⟨_, h⟩ => nomatch h
      · intro h
        cases h with
        | kind other => cases other
  | int n =>
      rw [name, Except.map_fails, integer_fails_iff]
      constructor
      · exact .tooLong
      · intro h
        cases h with
        | kind other => cases other
        | tooLong long => exact long
  | real x =>
      rw [name, Except.map_fails, real_fails_iff]
      constructor
      · exact .notFinite
      · intro h
        cases h with
        | kind other => cases other
        | notFinite h => exact h
  | _ => exact ⟨fun _ => .kind rfl, fun _ => ⟨_, rfl⟩⟩

mutual

theorem write_fails_iff (v : Value) :
    (∃ fault, write .response v = .error fault) ↔ Unwritable v := by
  cases v with
  | null | bool | text => exact ⟨fun ⟨_, h⟩ => (nomatch h), fun h => nomatch h⟩
  | int n =>
      rw [write_int, integer_fails_iff]
      constructor
      · exact .tooLong
      · rintro (_ | long)
        exact long
  | real x =>
      rw [write_real, real_fails_iff]
      constructor
      · exact .notFinite
      · rintro (infinite | _)
        exact infinite
  | bytes b => exact ⟨fun _ => .bytes b, fun _ => ⟨_, rfl⟩⟩
  | set items => exact ⟨fun _ => .set items, fun _ => ⟨_, rfl⟩⟩
  | thing which shown => exact ⟨fun _ => .thing which shown, fun _ => ⟨_, rfl⟩⟩
  | endless isMap => exact ⟨fun _ => .endless isMap, fun _ => ⟨_, rfl⟩⟩
  | list items =>
      rw [write_list, Except.map_fails, writeItems_fails_iff items]
      constructor
      · rintro ⟨v, mem, h⟩
        exact .item mem h
      · intro h
        cases h with
        | item mem h => exact ⟨_, mem, h⟩
  | tuple items =>
      rw [write_tuple, Except.map_fails, writeItems_fails_iff items]
      constructor
      · rintro ⟨v, mem, h⟩
        exact .part mem h
      · intro h
        cases h with
        | part mem h => exact ⟨_, mem, h⟩
  | map members =>
      rw [write_map, Except.map_fails, writeMembers_fails_iff members]
      constructor
      · rintro ⟨m, mem, bad | h⟩
        · exact .name mem bad
        · exact .member mem h
      · intro h
        cases h with
        | name mem bad => exact ⟨_, mem, .inl bad⟩
        | member mem h => exact ⟨_, mem, .inr h⟩

theorem writeItems_fails_iff (items : List Value) :
    (∃ fault, writeItems .response items = .error fault) ↔ ∃ v ∈ items, Unwritable v := by
  cases items with
  | nil => exact ⟨fun ⟨_, h⟩ => (nomatch h), fun ⟨_, mem, _⟩ => nomatch mem⟩
  | cons v rest =>
      simp only [writeItems_cons, List.mem_cons, exists_eq_or_imp]
      rw [← write_fails_iff v, ← writeItems_fails_iff rest]
      refine Except.bind_fails fun first => ?_
      rw [Except.bind_fails fun more => Except.ok_fails, or_false]

theorem writeMembers_fails_iff (members : List (Value × Value)) :
    (∃ fault, writeMembers .response members = .error fault) ↔
      ∃ m ∈ members, BadName m.1 ∨ Unwritable m.2 := by
  cases members with
  | nil => exact ⟨fun ⟨_, h⟩ => (nomatch h), fun ⟨_, mem, _⟩ => nomatch mem⟩
  | cons m rest =>
      rw [writeMembers_cons]
      simp only [List.mem_cons, exists_eq_or_imp]
      rw [← name_fails_iff, ← write_fails_iff m.2, ← writeMembers_fails_iff rest, or_assoc]
      refine Except.bind_fails fun key => ?_
      refine Except.bind_fails fun value => ?_
      rw [Except.bind_fails fun more => Except.ok_fails, or_false]

end

end Json

end QueryGateway
