import QueryGateway.Json.Read
import QueryGateway.Json.Write
import QueryGateway.Proofs.Except
import QueryGateway.Proofs.Text.Transport

/-!
# Writing with and without a limit

`write` has all the room it takes. Its equations come first, and no other proof looks behind them.

How many calls inside one another a value takes is `levels`. With that much room the writer does
what it does without a limit (`writeWithin_eq`), with less it fails (`writeWithin_fails`). Only a
response is written within a limit, so this is about its style.
-/

namespace QueryGateway.Json

open Value

/-! ## Without a limit -/

section Equations
variable {style : Style}

theorem text_eq {t : Text} (fits : style.inUtf8 = false ∨ t.IsScalar) :
    text style t = .ok (quote style.escape t) := by
  unfold text
  rcases fits with ascii | scalar
  · rw [ascii]
    rfl
  · rw [Text.isScalar_iff.mpr scalar]
    cases style.inUtf8 <;> rfl

theorem name_text {t : Text} (fits : style.inUtf8 = false ∨ t.IsScalar) :
    name style (.text t) = .ok (quote style.escape t) := by
  show Except.ok (quote style.escape (if style.inUtf8 then _ else t)) = _
  rcases fits with ascii | scalar
  · rw [ascii]
    rfl
  · rw [Utf8.decodeLossy_encode scalar]
    cases style.inUtf8 <;> rfl

theorem write_int (n : Int) : write style (.int n) = integer n := rfl

theorem write_real (x : Binary64) : write style (.real x) = real style x := rfl

theorem write_text (t : Text) : write style (.text t) = text style t := rfl

theorem write_list (items : List Value) :
    write style (.list items) = (writeItems style items).map (brackets style) := rfl

theorem write_tuple (items : List Value) :
    write style (.tuple items) = (writeItems style items).map (brackets style) := rfl

theorem write_map (members : List (Value × Value)) :
    write style (.map members) = (writeMembers style members).map (braces style) := rfl

theorem write_set (items : List Value) :
    write style (.set items) =
      if style.foreign = .data then (writeItems style items).map (brackets style)
      else foreignLeaf style (.set items) := by
  unfold write writeWithin
  cases style.foreign <;> rfl

theorem writeItems_cons (v : Value) (rest : List Value) :
    writeItems style (v :: rest) = (do
      let first ← write style v
      let more ← writeItems style rest
      .ok (first :: more)) := rfl

theorem writeMembers_cons (k v : Value) (rest : List (Value × Value)) :
    writeMembers style ((k, v) :: rest) = (do
      let key ← name style k
      let value ← write style v
      let more ← writeMembers style rest
      .ok ((key ++ style.nameMark ++ value) :: more)) := rfl

end Equations

/-! ## How much room a value takes -/

mutual

/-- How many calls inside one another writing a value takes. A container that holds itself is found
out in the second, and what has no JSON form is refused in the second. -/
def levels : Value → Nat
  | .list items | .tuple items => levelsOfItems items + 1
  | .map members => levelsOfMembers members + 1
  | .set _ | .bytes _ | .thing .. | .endless _ => 2
  | .null | .bool _ | .int _ | .real _ | .text _ => 0

def levelsOfItems : List Value → Nat
  | [] => 0
  | v :: rest => max (levels v) (levelsOfItems rest)

def levelsOfMembers : List (Value × Value) → Nat
  | [] => 0
  | (_, v) :: rest => max (levels v) (levelsOfMembers rest)

end

section Rooms
variable {room : Room} {doing : Text} {n : Nat}

theorem within_max {m n : Nat} :
    within room (max m n) = true ↔ within room m = true ∧ within room n = true := by
  cases room with
  | none => simp [within]
  | some most => simp only [within, Option.all_some, decide_eq_true_eq, Nat.max_le]

theorem within_max_fails {m n : Nat} (h : within room (max m n) = false) :
    within room m = false ∨ within room n = false := by
  rw [← Bool.not_eq_true, within_max, Decidable.not_and_iff_not_or_not] at h
  simpa only [Bool.not_eq_true] using h

theorem inside_ok (doing : Text) (h : within room (n + 1) = true) :
    ∃ inner, inside doing room = .ok inner ∧ within inner n = true := by
  match room with
  | none => exact ⟨none, rfl, rfl⟩
  | some 0 => simp [within] at h
  | some (most + 1) => exact ⟨some most, rfl, by simpa [within] using h⟩

theorem inside_fails (h : within room (n + 1) = false) :
    (∃ fault, inside doing room = .error fault) ∨
      ∃ inner, inside doing room = .ok inner ∧ within inner n = false := by
  match room with
  | none => cases h
  | some 0 => exact .inl ⟨_, rfl⟩
  | some (most + 1) => exact .inr ⟨some most, rfl, by simpa [within] using h⟩

theorem insideForeign_ok (h : within room 2 = true) : ∃ inner, insideForeign room = .ok inner := by
  obtain ⟨inner, entered, fits⟩ := inside_ok "" h
  obtain ⟨innermost, called, -⟩ := inside_ok " while calling a Python object" fits
  exact ⟨innermost, by rw [insideForeign, entered, Except.ok_bind, called]⟩

end Rooms

/-! ## With enough room -/

mutual

theorem writeWithin_eq (v : Value) {room : Room} (h : within room (levels v) = true) :
    writeWithin .response room v = write .response v := by
  cases v with
  | null | bool | int | real | text => rfl
  | list items | tuple items =>
      obtain ⟨inner, entered, fits⟩ := inside_ok _ h
      show (insideContainer room >>= _) = _
      rw [insideContainer, entered, Except.ok_bind, writeItemsWithin_eq items fits]
      rfl
  | map members =>
      obtain ⟨inner, entered, fits⟩ := inside_ok _ h
      show (insideContainer room >>= _) = _
      rw [insideContainer, entered, Except.ok_bind, writeMembersWithin_eq members fits]
      rfl
  | set | bytes | thing =>
      obtain ⟨inner, called⟩ := insideForeign_ok h
      show (insideForeign room >>= _) = _
      rw [called]
      rfl
  | endless isMap =>
      obtain ⟨inner, entered, fits⟩ := inside_ok " while encoding a JSON object" h
      obtain ⟨innermost, again, -⟩ := inside_ok " while encoding a JSON object" fits
      show (insideContainer room >>= fun inner => insideContainer inner >>= _) = _
      rw [insideContainer, entered, Except.ok_bind, again]
      rfl

theorem writeItemsWithin_eq (items : List Value) {room : Room}
    (h : within room (levelsOfItems items) = true) :
    writeItemsWithin .response room items = writeItems .response items := by
  cases items with
  | nil => rfl
  | cons v rest =>
      obtain ⟨first, later⟩ := within_max.mp h
      rw [writeItemsWithin, writeWithin_eq v first, writeItemsWithin_eq rest later]
      rfl

theorem writeMembersWithin_eq (members : List (Value × Value)) {room : Room}
    (h : within room (levelsOfMembers members) = true) :
    writeMembersWithin .response room members = writeMembers .response members := by
  cases members with
  | nil => rfl
  | cons m rest =>
      obtain ⟨first, later⟩ := within_max.mp h
      rw [writeMembersWithin, writeWithin_eq m.2 first, writeMembersWithin_eq rest later]
      rfl

end

/-! ## With less -/

mutual

theorem writeWithin_fails (v : Value) {room : Room} (h : within room (levels v) = false) :
    ∃ fault, writeWithin .response room v = .error fault := by
  cases v with
  | null | bool | int | real | text => cases room <;> cases h
  | list items | tuple items =>
      refine Except.bind_failed ?_
      rcases inside_fails h with refused | ⟨inner, entered, tight⟩
      · exact .inl refused
      · refine .inr fun room found => ?_
        cases entered.symm.trans found
        obtain ⟨fault, failed⟩ := writeItemsWithin_fails items tight
        exact ⟨fault, by rw [failed]; rfl⟩
  | map members =>
      refine Except.bind_failed ?_
      rcases inside_fails h with refused | ⟨inner, entered, tight⟩
      · exact .inl refused
      · refine .inr fun room found => ?_
        cases entered.symm.trans found
        obtain ⟨fault, failed⟩ := writeMembersWithin_fails members tight
        exact ⟨fault, by rw [failed]; rfl⟩
  | set | bytes | thing => exact Except.bind_failed (.inr fun _ _ => ⟨_, rfl⟩)
  | endless isMap =>
      exact Except.bind_failed (.inr fun _ _ => Except.bind_failed (.inr fun _ _ => ⟨_, rfl⟩))

theorem writeItemsWithin_fails (items : List Value) {room : Room}
    (h : within room (levelsOfItems items) = false) :
    ∃ fault, writeItemsWithin .response room items = .error fault := by
  cases items with
  | nil => cases room <;> cases h
  | cons v rest =>
      refine Except.bind_failed ?_
      rcases within_max_fails h with first | later
      · exact .inl (writeWithin_fails v first)
      · exact .inr fun _ _ => Except.bind_failed (.inl (writeItemsWithin_fails rest later))

theorem writeMembersWithin_fails (members : List (Value × Value)) {room : Room}
    (h : within room (levelsOfMembers members) = false) :
    ∃ fault, writeMembersWithin .response room members = .error fault := by
  cases members with
  | nil => cases room <;> cases h
  | cons m rest =>
      refine Except.bind_failed (.inr fun _ _ => Except.bind_failed ?_)
      rcases within_max_fails h with first | later
      · exact .inl (writeWithin_fails m.2 first)
      · exact .inr fun _ _ => Except.bind_failed (.inl (writeMembersWithin_fails rest later))

end

/-! ## Without a limit nothing is too deep -/

section Faults
variable {style : Style} {fault : WriteFault}

/-- The fault is one of the value, and not of the room for it. -/
def WriteFault.IsOfValue (fault : WriteFault) : Prop := ∀ doing, fault ≠ .tooDeep doing

theorem isOfValue_integer {n : Int} (h : integer n = .error fault) : fault.IsOfValue := by
  unfold integer at h
  simp only [] at h
  split at h
  · cases h
    exact nofun
  · cases h

theorem isOfValue_real {x : Binary64} (h : real style x = .error fault) : fault.IsOfValue := by
  unfold real at h
  split at h
  · cases h
  · split at h
    · cases h
      exact nofun
    · cases h
    · cases h

theorem isOfValue_text {t : Text} (h : text style t = .error fault) : fault.IsOfValue := by
  unfold text at h
  split at h
  · cases h
    exact nofun
  · cases h

theorem isOfValue_name {k : Value} (h : name style k = .error fault) : fault.IsOfValue := by
  cases k with
  | null | bool | text => cases h
  | int n => exact isOfValue_integer (Except.map_error h)
  | real x => exact isOfValue_real (Except.map_error h)
  | _ =>
      cases h
      exact nofun

theorem isOfValue_foreignLeaf {v : Value} (h : foreignLeaf style v = .error fault) :
    fault.IsOfValue := by
  unfold foreignLeaf at h
  split at h
  · cases h
  · split at h
    · cases h
    · cases h
      exact nofun
  · cases h
    exact nofun

end Faults

mutual

theorem isOfValue_write {style : Style} (v : Value) {fault : WriteFault}
    (h : write style v = .error fault) : fault.IsOfValue := by
  cases v with
  | null | bool => cases h
  | int n => exact isOfValue_integer h
  | real x => exact isOfValue_real h
  | text t => exact isOfValue_text h
  | list items | tuple items => exact isOfValue_writeItems items (Except.map_error h)
  | map members => exact isOfValue_writeMembers members (Except.map_error h)
  | set items =>
      rw [write_set] at h
      split at h
      · exact isOfValue_writeItems items (Except.map_error h)
      · exact isOfValue_foreignLeaf h
  | endless isMap =>
      cases h
      exact nofun
  | bytes | thing => exact isOfValue_foreignLeaf h

theorem isOfValue_writeItems {style : Style} (items : List Value) {fault : WriteFault}
    (h : writeItems style items = .error fault) : fault.IsOfValue := by
  cases items with
  | nil => cases h
  | cons v rest =>
      rcases Except.bind_error h with h | ⟨first, -, h⟩
      · exact isOfValue_write v h
      · rcases Except.bind_error h with h | ⟨more, -, h⟩
        · exact isOfValue_writeItems rest h
        · cases h

theorem isOfValue_writeMembers {style : Style} (members : List (Value × Value)) {fault : WriteFault}
    (h : writeMembers style members = .error fault) : fault.IsOfValue := by
  cases members with
  | nil => cases h
  | cons m rest =>
      rcases Except.bind_error h with h | ⟨key, -, h⟩
      · exact isOfValue_name h
      · rcases Except.bind_error h with h | ⟨value, -, h⟩
        · exact isOfValue_write m.2 h
        · rcases Except.bind_error h with h | ⟨more, -, h⟩
          · exact isOfValue_writeMembers rest h
          · cases h

end

end QueryGateway.Json
