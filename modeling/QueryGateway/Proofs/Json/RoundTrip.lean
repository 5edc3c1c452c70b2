import QueryGateway.Proofs.Json.Readable
import QueryGateway.Proofs.Json.Spelling
import QueryGateway.Proofs.Json.Written

/-!
# What is written is read back

A value that a body can hold comes back from the text of an envelope, with one exception: numbers
that are not finite have no text of their own, they are written as null and come back as null
(`Value.nulled`). Finite floating point numbers are left out; whether they come back is a matter of
shortest digits, and none of the statements here speaks of them (`Quiet`).

The induction is on what can be read. Each value is written as a text that the grammar builds for
it (`Returns`), containers from the texts of what they hold, and a text that the grammar builds is
read as the value that it denotes.

What is NOT here: texts with white space, escapes that are never written, and members named twice.
All of these are read and none is written.
-/

namespace QueryGateway

open Text

/-! ## Numbers that are not finite -/

namespace Value

mutual

/-- The value with null in the place of each number that is not finite, at any depth. -/
def nulled : Value → Value
  | .real x => if x.isFinite then .real x else .null
  | .list items => .list (nulledItems items)
  | .map members => .map (nulledMembers members)
  | v => v

/-- Each item with null in the place of numbers that are not finite. -/
def nulledItems : List Value → List Value
  | [] => []
  | v :: rest => nulled v :: nulledItems rest

/-- Each member with null in the place of numbers that are not finite; keys stay what they are. -/
def nulledMembers : List (Value × Value) → List (Value × Value)
  | [] => []
  | (k, v) :: rest => (k, nulled v) :: nulledMembers rest

end

theorem nulled_list (items : List Value) :
    (Value.list items).nulled = .list (items.map nulled) := by
  suffices all : nulledItems items = items.map nulled by rw [nulled, all]
  induction items with
  | nil => rfl
  | cons v rest ih => rw [nulledItems, ih, List.map_cons]

end Value

/-- The members with null in the place of numbers that are not finite. -/
def Members.nulled (members : Members) : Members := members.map fun m => (m.1, m.2.nulled)

theorem Value.nulled_object (members : Members) :
    (Value.object members).nulled = Value.object members.nulled := by
  suffices all : nulledMembers (members.map fun m => (Value.text m.1, m.2)) =
      members.nulled.map fun m => (Value.text m.1, m.2) from congrArg Value.map all
  induction members with
  | nil => rfl
  | cons m rest ih => exact congrArg (_ :: ·) ih

theorem Members.nulled_names (members : Members) :
    members.nulled.map Prod.fst = members.map Prod.fst := by
  rw [nulled, List.map_map]
  rfl

theorem Members.distinct_nulled {members : Members} (h : members.Distinct) :
    members.nulled.Distinct := by
  rw [Distinct, nulled_names]
  exact h

/-! ## Where numbers occur -/

namespace Value

mutual

/-- The floating point numbers in a value, at any depth, in the order in which they are written. -/
def reals : Value → List Binary64
  | .real x => [x]
  | .list items => realsOfItems items
  | .map members => realsOfMembers members
  | _ => []

/-- The floating point numbers in all items. -/
def realsOfItems : List Value → List Binary64
  | [] => []
  | v :: rest => reals v ++ realsOfItems rest

/-- The floating point numbers in the values of all members. -/
def realsOfMembers : List (Value × Value) → List Binary64
  | [] => []
  | (_, v) :: rest => reals v ++ realsOfMembers rest

end

/-- No finite floating point number occurs in the value. -/
def Quiet (v : Value) : Prop := ∀ x ∈ v.reals, x.isFinite = false

/-- No floating point number occurs in the value. -/
def Exact (v : Value) : Prop := v.reals = []

theorem reals_list (items : List Value) : (Value.list items).reals = items.flatMap reals := by
  suffices all : realsOfItems items = items.flatMap reals by rw [reals, all]
  induction items with
  | nil => rfl
  | cons v rest ih => rw [realsOfItems, ih, List.flatMap_cons]

theorem reals_object (members : Members) :
    (Value.object members).reals = members.flatMap fun m => m.2.reals := by
  suffices all : realsOfMembers (members.map fun m => (Value.text m.1, m.2)) =
      members.flatMap fun m => m.2.reals from all
  induction members with
  | nil => rfl
  | cons m rest ih => exact congrArg (m.2.reals ++ ·) ih

theorem quiet_list {items : List Value} : (Value.list items).Quiet ↔ ∀ v ∈ items, v.Quiet := by
  rw [Quiet, reals_list, List.forall_mem_flatMap]
  rfl

theorem quiet_object {members : Members} :
    (Value.object members).Quiet ↔ ∀ m ∈ members, m.2.Quiet := by
  rw [Quiet, reals_object, List.forall_mem_flatMap]
  rfl

theorem exact_list {items : List Value} : (Value.list items).Exact ↔ ∀ v ∈ items, v.Exact := by
  rw [Exact, reals_list, List.flatMap_eq_nil_iff]
  rfl

theorem exact_object {members : Members} :
    (Value.object members).Exact ↔ ∀ m ∈ members, m.2.Exact := by
  rw [Exact, reals_object, List.flatMap_eq_nil_iff]
  rfl

end Value

namespace Json

/-! ## Coming back -/

/-- A value is written as this text, which is Unicode text, and the text denotes it but for numbers
that are not finite. -/
structure Returns (depth : Nat) (v : Value) (t : Text) : Prop where
  conveys : Conveys .envelope Dialect.body Value.nulled depth v t
  scalar : t.IsScalar

/-- A member is written as its name and its value, and that is Unicode text. -/
structure ReturnsMember (depth : Nat) (m : Text × Value) (t : Text) : Prop where
  conveys : ConveysMember .envelope Dialect.body id Value.nulled depth m t
  scalar : t.IsScalar

/-! ## Leaves -/

section Leaves
variable {depth : Nat}

theorem returns_named {v : Value} {w : String} (known : (Text.ofString w, v.nulled) ∈ names)
    (written : write .envelope v = .ok w) : Returns depth v w :=
  ⟨⟨written, .scalar (.named known)⟩, isScalar_ofString w⟩

theorem returns_real {x : Binary64} (h : x.isFinite = false) : Returns depth (.real x) "null" := by
  have written : write .envelope (.real x) = .ok "null" := by
    rw [write_real, real, h]
    rfl
  have nulled : (Value.real x).nulled = .null := by
    rw [Value.nulled, h]
    rfl
  exact returns_named (nulled ▸ .head _) written

theorem returns_bool (b : Bool) : ∃ t, Returns depth (.bool b) t := by
  cases b with
  | true => exact ⟨"true", returns_named (.tail _ (.head _)) rfl⟩
  | false => exact ⟨"false", returns_named (.tail _ (.tail _ (.head _))) rfl⟩

theorem returns_int {n : Int} (short : (ofNat n.natAbs).length ≤ maxDigits) :
    Returns depth (.int n) (ofInt n) := by
  have scalar : Scalar Dialect.body (ofInt n) (.int n) :=
    scalar_ofInt (decide_eq_true short) rfl
  exact ⟨⟨integer_eq_ofInt short, .scalar scalar⟩, isScalar_ofInt n⟩

theorem isScalar_plainEscape {c : CodePoint} (h : c.isSurrogate = false) :
    (plainEscape c).IsScalar := by
  unfold plainEscape
  split
  · rename_i e escape
    exact (isPrintable_shortEscape escape).isScalar
  · split
    · exact (isPrintable_numberEscape c).isScalar
    · exact isScalar_nil.cons h

theorem isScalar_quote_plain {t : Text} (h : t.IsScalar) : (quote plainEscape t).IsScalar := by
  have quotes : IsScalar "\"" := isScalar_ofString _
  have escaped := IsScalar.flatMap fun c mem => isScalar_plainEscape (h c mem)
  exact (quotes.append escaped).append quotes

theorem returns_text {t : Text} (h : t.IsScalar) :
    Returns depth (.text t) (quote plainEscape t) :=
  ⟨⟨text_eq (.inr h), .text (chars_plainEscape t)⟩, isScalar_quote_plain h⟩

end Leaves

/-! ## Containers -/

section Containers
variable {depth : Nat} {ts : List Text}

/-- What holds of every text that something is related to holds of all of them. -/
theorem forall_mem_of_related {α : Type} {r : α → Text → Prop} {p : Text → Prop} {as : List α}
    (h : List.Forall₂ r as ts) (each : ∀ {a t}, r a t → p t) : ∀ t ∈ ts, p t := by
  induction h with
  | nil => exact List.forall_mem_nil _
  | cons first _ ih => exact List.forall_mem_cons.mpr ⟨each first, ih⟩

theorem returns_emptyList : Returns depth (.list []) (brackets .envelope []) :=
  ⟨⟨rfl, .emptyList blank_nil⟩, isScalar_ofString "[]"⟩

theorem returns_emptyObject : Returns depth (Value.object []) (braces .envelope []) :=
  ⟨⟨rfl, .emptyTable blank_nil⟩, isScalar_ofString "\x7b\x7d"⟩

theorem returns_list {items : List Value} (h : List.Forall₂ (Returns depth) items ts) :
    Returns (depth + 1) (.list items) (brackets .envelope ts) := by
  have scalar := forall_mem_of_related h Returns.scalar
  refine ⟨conveys_list Style.regular_envelope (Value.nulled_list items)
    (h.imp fun _ _ h => h.conveys), ?_⟩
  exact ((isScalar_ofString _).append (IsScalar.join (isScalar_ofString _) scalar)).append
    (isScalar_ofString _)

/-- A distinct table stays as it is when its members are put in once more. -/
theorem nulled_object_resolve {members : Members} (distinct : members.Distinct) :
    (Value.object members).nulled =
      Value.object (resolve (members.map fun m => (id m.1, m.2.nulled))) := by
  have same : resolve members.nulled = members.nulled :=
    Members.update_of_distinct (Members.distinct_nulled distinct)
  rw [Value.nulled_object]
  exact congrArg Value.object same.symm

theorem returns_object {members : Members} (distinct : members.Distinct)
    (h : List.Forall₂ (ReturnsMember depth) members ts) :
    Returns (depth + 1) (Value.object members) (braces .envelope ts) := by
  have scalar := forall_mem_of_related h ReturnsMember.scalar
  refine ⟨conveys_object Style.regular_envelope (nulled_object_resolve distinct)
    (h.imp fun _ _ h => h.conveys), ?_⟩
  exact ((isScalar_ofString _).append (IsScalar.join (isScalar_ofString _) scalar)).append
    (isScalar_ofString _)

end Containers

/-! ## Values -/

theorem Readable.returns {depth : Nat} {v : Value} (h : Readable depth v) (quiet : v.Quiet) :
    ∃ t, Returns depth v t := by
  induction h with
  | null => exact ⟨"null", returns_named (.head _) rfl⟩
  | bool b => exact returns_bool b
  | int short => exact ⟨_, returns_int short⟩
  | real x => exact ⟨_, returns_real (quiet x List.mem_cons_self)⟩
  | text scalar => exact ⟨_, returns_text scalar⟩
  | emptyList => exact ⟨_, returns_emptyList⟩
  | emptyObject => exact ⟨_, returns_emptyObject⟩
  | list _ ih =>
      obtain ⟨ts, all⟩ := exists_texts fun v mem => ih v mem (Value.quiet_list.mp quiet v mem)
      exact ⟨_, returns_list all⟩
  | @object depth members distinct scalars _ ih =>
      have each : ∀ m ∈ members, ∃ t, ReturnsMember depth m t := by
        intro m mem
        obtain ⟨w, value⟩ := ih m mem (Value.quiet_object.mp quiet m mem)
        have quoted := isScalar_quote_plain (scalars m mem)
        exact ⟨_, .member (name_text (.inr (scalars m mem))) (chars_plainEscape m.1) value.conveys,
          (quoted.append (isScalar_ofString _)).append value.scalar⟩
      obtain ⟨ts, all⟩ := exists_texts each
      exact ⟨_, returns_object distinct all⟩

/-- A value that a body can hold is written, and a body with its text holds it again, but for
numbers that are not finite. -/
theorem read?_write {v : Value} (h : Readable 200 v) (quiet : v.Quiet) :
    ∃ t, write .envelope v = .ok t ∧ t.IsScalar ∧ read? Dialect.body t = some v.nulled := by
  obtain ⟨t, conveys, scalar⟩ := h.returns quiet
  exact ⟨t, conveys.written, scalar, conveys.read? rfl⟩

/-- Replacing numbers makes nothing of a value that a body could not hold. -/
theorem Readable.nulled {depth : Nat} {v : Value} (h : Readable depth v) :
    Readable depth v.nulled := by
  induction h with
  | null => exact .null
  | bool b => exact .bool b
  | int short => exact .int short
  | real x =>
      rw [Value.nulled]
      split
      · exact .real x
      · exact .null
  | text scalar => exact .text scalar
  | emptyList => exact .emptyList
  | emptyObject => exact .emptyObject
  | list _ ih =>
      rw [Value.nulled_list]
      exact .list (List.forall_mem_map.mpr ih)
  | object distinct names _ ih =>
      rw [Value.nulled_object]
      exact .object (Members.distinct_nulled distinct) (List.forall_mem_map.mpr names)
        (List.forall_mem_map.mpr ih)

end Json

/-! ## A second time -/

namespace Value

mutual

/-- Null has the text of numbers that are not finite. -/
theorem write_nulled (v : Value) : Json.write .envelope v.nulled = Json.write .envelope v := by
  cases v with
  | real x =>
      rw [nulled]
      cases finite : x.isFinite with
      | true => rw [if_pos rfl]
      | false =>
          rw [if_neg Bool.false_ne_true, Json.write_real, Json.real, finite]
          rfl
  | list items => rw [nulled, Json.write_list, Json.write_list, writeItems_nulled items]
  | map members => rw [nulled, Json.write_map, Json.write_map, writeMembers_nulled members]
  | _ => rfl

theorem writeItems_nulled (items : List Value) :
    Json.writeItems .envelope (nulledItems items) = Json.writeItems .envelope items := by
  cases items with
  | nil => rfl
  | cons v rest =>
      rw [nulledItems, Json.writeItems_cons, Json.writeItems_cons, write_nulled v,
        writeItems_nulled rest]

theorem writeMembers_nulled (members : List (Value × Value)) :
    Json.writeMembers .envelope (nulledMembers members) =
      Json.writeMembers .envelope members := by
  cases members with
  | nil => rfl
  | cons m rest =>
      rw [nulledMembers, Json.writeMembers_cons, Json.writeMembers_cons, write_nulled m.2,
        writeMembers_nulled rest]

end

/-- Where there is no floating point number there is nothing to replace. -/
theorem Exact.nulled_eq {depth : Nat} {v : Value} (h : v.Exact) (readable : Json.Readable depth v) :
    v.nulled = v := by
  induction readable with
  | null | bool | int | text | emptyList | emptyObject => rfl
  | real x => cases h
  | @list _ items _ ih =>
      have same : items.map nulled = items.map id :=
        List.map_congr_left fun v mem => ih v mem (exact_list.mp h v mem)
      rw [nulled_list, same, List.map_id]
  | @object _ members _ _ _ ih =>
      have same : members.map (fun m => (m.1, m.2.nulled)) = members.map id :=
        List.map_congr_left fun m mem => congrArg (m.1, ·) (ih m mem (exact_object.mp h m mem))
      rw [nulled_object, Members.nulled, same, List.map_id]

end Value

end QueryGateway
