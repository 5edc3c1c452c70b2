import QueryGateway.Json.Write
import QueryGateway.Proofs.Json.Acceptance
import QueryGateway.Proofs.Text.Scalar

/-!
# What a body can hold

The reader of bodies is strict, so not every value is the value of a body. `Readable` says which
ones can be: texts are Unicode text, integers have no more digits than numbers may have, no table
names anything twice, and containers are nested at most to the depth that the reader allows, where
empty ones do not count. Floating point numbers are not restricted.

Whatever is read was built by the grammar, so this is an induction on derivations, one case for each
rule (`Val.readable`), and `readable_read?` says it of whole bodies.
-/

namespace QueryGateway.Json

open Text

/-- A value that a body can hold with containers nested to a depth. -/
inductive Readable : Nat → Value → Prop
  | null {depth : Nat} : Readable depth .null
  | bool {depth : Nat} (b : Bool) : Readable depth (.bool b)
  | int {depth : Nat} {n : Int} : (ofNat n.natAbs).length ≤ maxDigits → Readable depth (.int n)
  | real {depth : Nat} (x : Binary64) : Readable depth (.real x)
  | text {depth : Nat} {t : Text} : t.IsScalar → Readable depth (.text t)
  | emptyList {depth : Nat} : Readable depth (.list [])
  | list {depth : Nat} {items : List Value} : (∀ v ∈ items, Readable depth v) →
      Readable (depth + 1) (.list items)
  | emptyObject {depth : Nat} : Readable depth (Value.object [])
  | object {depth : Nat} {members : Members} : members.Distinct →
      (∀ m ∈ members, m.1.IsScalar) → (∀ m ∈ members, Readable depth m.2) →
      Readable (depth + 1) (Value.object members)

/-! ## Tables -/

theorem Readable.table {depth : Nat} {pairs : List (Value × Value)}
    (h : Readable depth (.map pairs)) :
    ∃ members, Value.map pairs = Value.object members ∧ members.Distinct ∧
      (∀ m ∈ members, m.1.IsScalar) ∧ ∀ m ∈ members, Readable (depth - 1) m.2 := by
  generalize whole : Value.map pairs = v at h
  cases h with
  | emptyObject => exact ⟨[], rfl, List.nodup_nil, nofun, nofun⟩
  | @object d members distinct names values => exact ⟨members, rfl, distinct, names, values⟩
  | _ => cases whole

/-! ## Leaves -/

theorem letterEscapes_isSurrogate {e c : CodePoint} (h : (e, c) ∈ letterEscapes) :
    c.isSurrogate = false := by
  have small : c.val < 0x80 := letterEscapes_ascii h
  simp only [CodePoint.isSurrogate, Bool.and_eq_false_iff, decide_eq_false_iff_not]
  omega

/-- A body names no half of a surrogate pair, so the texts in a Unicode body are Unicode texts. -/
theorem Chars.isScalar {w t : Text} (h : Chars Dialect.body w t) (hw : w.IsScalar) :
    t.IsScalar := by
  induction h with
  | nil => exact isScalar_nil
  | plain _ _ _ _ ih =>
      obtain ⟨first, later⟩ := List.forall_mem_cons.mp hw
      exact (ih later).cons first
  | letter known _ ih =>
      obtain ⟨-, hw⟩ := List.forall_mem_cons.mp hw
      exact (ih (List.forall_mem_cons.mp hw).2).cons (letterEscapes_isSurrogate known)
  | @unit u w t n escape notHigh notLow _ ih =>
      have small := escape.lt
      have plain : n < 0xD800 ∨ 0xDFFF < n ∧ n < 0x110000 := by
        unfold IsHigh at notHigh
        unfold IsLow at notLow
        omega
      exact (ih (isScalar_append.mp hw).2).cons (CodePoint.isSurrogate_ofNat plain)
  | @pair u v w t m n _ _ high low _ ih =>
      have beyond : 0xDFFF < 0x10000 + (m - 0xD800) * 0x400 + (n - 0xDC00) ∧
          0x10000 + (m - 0xD800) * 0x400 + (n - 0xDC00) < 0x110000 := by
        unfold IsHigh at high
        unfold IsLow at low
        omega
      exact (ih (isScalar_append.mp (isScalar_append.mp hw).2).2).cons
        (CodePoint.isSurrogate_ofNat (.inr beyond))
  | half lone _ _ _ _ => cases lone

/-- No fewer digits than those of a number have its value. -/
theorem length_natAbs_signed {negative : Bool} {ds : Text} (h : Digits ds) :
    (ofNat (signed negative ds).natAbs).length ≤ ds.length := by
  have value : (signed negative ds).natAbs = digitsValue ds := by
    cases negative with
    | false => exact Int.natAbs_natCast _
    | true => exact (Int.natAbs_neg _).trans (Int.natAbs_natCast _)
  rw [value]
  exact length_ofNat_digitsValue h.run h.ne_nil

theorem Scalar.readable {w : Text} {v : Value} (h : Scalar Dialect.body w v) (depth : Nat) :
    Readable depth v := by
  cases h with
  | named known =>
      simp only [names, List.mem_cons, Prod.mk.injEq, List.not_mem_nil, or_false] at known
      rcases known with ⟨-, rfl⟩ | ⟨-, rfl⟩ | ⟨-, rfl⟩ | ⟨-, rfl⟩ | ⟨-, rfl⟩ | ⟨-, rfl⟩
      · exact .null
      · exact .bool true
      · exact .bool false
      all_goals exact .real _
  | int whole lead _ =>
      exact .int (Nat.le_trans (length_natAbs_signed whole.toDigits) (of_decide_eq_true lead))
  | real => exact .real _

/-! ## Containers -/

/-- A table is distinct however often the text names something. -/
theorem readable_resolve {depth : Nat} {members : Members}
    (h : ∀ m ∈ members, m.1.IsScalar ∧ Readable depth m.2) :
    Readable (depth + 1) (Value.object (resolve members)) := by
  have kept {m : Text × Value} (mem : m ∈ resolve members) : m ∈ members :=
    (Members.mem_update mem).resolve_left List.not_mem_nil
  exact .object (Members.distinct_update List.nodup_nil) (fun m mem => (h m (kept mem)).1)
    fun m mem => (h m (kept mem)).2

/-- What stands between two marks. -/
theorem isScalar_enclosed {a b : CodePoint} {w : Text} (h : IsScalar (a :: (w ++ [b]))) :
    w.IsScalar :=
  (isScalar_append.mp (List.forall_mem_cons.mp h).2).1

theorem Label.isScalar {l name : Text} (h : Label Dialect.body l name) (hl : l.IsScalar) :
    name.IsScalar := by
  cases h with
  | quoted _ chars _ _ =>
      have quoted := (List.forall_mem_cons.mp (isScalar_append.mp hl).2).2
      exact chars.isScalar (isScalar_append.mp quoted).1

mutual

theorem Val.readable {depth : Nat} {w : Text} {v : Value} (h : Val Dialect.body depth w v)
    (hw : w.IsScalar) : Readable depth v := by
  match h with
  | .scalar scalar => exact scalar.readable depth
  | .text chars => exact .text (chars.isScalar (isScalar_enclosed hw))
  | .emptyList _ => exact .emptyList
  | .list elements => exact .list (elements.readable (isScalar_enclosed hw))
  | .emptyTable _ => exact .emptyObject
  | .table pairs => exact readable_resolve (pairs.readable (isScalar_enclosed hw))

theorem Elements.readable {depth : Nat} {w : Text} {items : List Value}
    (h : Elements Dialect.body depth w items) (hw : w.IsScalar) :
    ∀ v ∈ items, Readable depth v := by
  match h with
  | .last _ value _ =>
      have scalar := isScalar_append.mp (isScalar_append.mp hw).2
      exact List.forall_mem_singleton.mpr (value.readable scalar.1)
  | .more _ value _ later =>
      have scalar := isScalar_append.mp (isScalar_append.mp hw).2
      have behind := (isScalar_append.mp scalar.2).2
      exact List.forall_mem_cons.mpr ⟨value.readable scalar.1,
        later.readable (List.forall_mem_cons.mp behind).2⟩

theorem Pairs.readable {depth : Nat} {w : Text} {members : Members}
    (h : Pairs Dialect.body depth w members) (hw : w.IsScalar) :
    ∀ m ∈ members, m.1.IsScalar ∧ Readable depth m.2 := by
  match h with
  | .last label value _ =>
      obtain ⟨front, scalar⟩ := isScalar_append.mp hw
      exact List.forall_mem_singleton.mpr
        ⟨label.isScalar front, value.readable (isScalar_append.mp scalar).1⟩
  | .more label value _ later =>
      obtain ⟨front, scalar⟩ := isScalar_append.mp hw
      obtain ⟨middle, behind⟩ := isScalar_append.mp scalar
      have rest := (List.forall_mem_cons.mp (isScalar_append.mp behind).2).2
      exact List.forall_mem_cons.mpr
        ⟨⟨label.isScalar front, value.readable middle⟩, later.readable rest⟩

end

/-- Whatever is read from a body, given that the body is Unicode text. -/
theorem readable_read? {t : Text} {v : Value} (h : read? Dialect.body t = some v)
    (ht : t.IsScalar) : Readable 200 v := by
  obtain ⟨room, before, value, behind⟩ := read?_eq_some_iff.mp h
  have scalar := (isScalar_append.mp (isScalar_append.mp ht).2).1
  exact (value.mono (.inl (of_decide_eq_true room))).readable scalar

end QueryGateway.Json
