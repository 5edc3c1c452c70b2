import QueryGateway.Proofs.Json.Room
import QueryGateway.Proofs.Text.Ascii

/-!
# What is written into a response

Two facts about the writer. A style whose marks, escapes and numbers are printable ASCII writes
nothing else, whatever the value holds, since every text of the value goes through the escapes
(`isPrintable_write`). Responses are written in such a style, so a body that could be written can be
sent.

Whether something can be written is decided at the leaves: a container is writable as soon as what
it holds is.
-/

namespace QueryGateway

open Text

/-! ## Numbers -/

namespace Number

theorem isPrintable_positional {digits : Text} (h : digits.IsPrintable) (before : Int) :
    (positional digits before).IsPrintable := by
  unfold positional
  split
  · exact (IsPrintable.append (isPrintable_ofString rfl) (isPrintable_zeros _)).append h
  · refine (((h.sublist (List.take_sublist _ _)).append (isPrintable_zeros _)).append
      (isPrintable_ofString rfl)).append ?_
    split
    · exact isPrintable_ofString rfl
    · exact h.sublist (List.drop_sublist _ _)

theorem isPrintable_scientific (layout : Layout) {digits : Text} (h : digits.IsPrintable)
    (exponent : Int) : (scientific layout digits exponent).IsPrintable := by
  have fraction : IsPrintable (digits.drop 1) := h.sublist (List.drop_sublist _ _)
  unfold scientific
  refine ((((h.sublist (List.take_sublist _ _)).append ?_).append (isPrintable_ofString rfl)).append
    ?_).append (isPrintable_padded _ _)
  · split
    · exact isPrintable_nil
    · exact IsPrintable.append (isPrintable_ofString rfl) fraction
  · split <;> exact isPrintable_ofString rfl

theorem isPrintable_write {layout : Layout} (nan : layout.nan.IsPrintable)
    (infinity : layout.infinity.IsPrintable) (x : Binary64) : (layout.write x).IsPrintable := by
  have sign (negative : Bool) :
      (ofString (if negative then "-" else "")).IsPrintable := by
    cases negative <;> exact isPrintable_ofString rfl
  cases x with
  | nan => exact nan
  | infinite negative => exact (sign negative).append infinity
  | finite negative m e =>
      refine (sign negative).append ?_
      split
      · exact isPrintable_ofString rfl
      · simp only []
        split
        · exact isPrintable_positional (isPrintable_ofNat _) _
        · exact isPrintable_scientific _ (isPrintable_ofNat _) _

end Number

namespace Json

/-! ## Escapes -/

theorem isPrintable_unitEscape (unit : Nat) : (unitEscape unit).IsPrintable :=
  IsPrintable.append (isPrintable_ofString rfl) (isPrintable_hex _ _)

theorem isPrintable_numberEscape (c : CodePoint) : (numberEscape c).IsPrintable := by
  unfold numberEscape
  split
  · exact isPrintable_unitEscape _
  · exact (isPrintable_unitEscape _).append (isPrintable_unitEscape _)

theorem isPrintable_shortEscape {c : CodePoint} {e : Text} (h : shortEscape? c = some e) :
    e.IsPrintable := by
  unfold shortEscape? at h
  repeat' split at h
  all_goals cases h
  all_goals exact isPrintable_ofString rfl

theorem isPrintable_asciiEscape (c : CodePoint) : (asciiEscape c).IsPrintable := by
  unfold asciiEscape
  split
  · rename_i e h
    exact isPrintable_shortEscape h
  · split
    · rename_i printable
      exact isPrintable_singleton printable
    · exact isPrintable_numberEscape c

theorem isPrintable_quote {escape : CodePoint → Text} (h : ∀ c, (escape c).IsPrintable)
    (t : Text) : (quote escape t).IsPrintable :=
  (IsPrintable.append (isPrintable_ofString rfl) (IsPrintable.flatMap h t)).append
    (isPrintable_ofString rfl)

/-! ## The writer -/

/-- A style that adds nothing but printable ASCII and lets nothing else through. -/
structure Style.Printable (style : Style) : Prop where
  itemMark : style.itemMark.IsPrintable
  nameMark : style.nameMark.IsPrintable
  escape : ∀ c, (style.escape c).IsPrintable
  number : ∀ x, (style.layout.write x).IsPrintable

theorem Style.response_printable : Style.response.Printable where
  itemMark := isPrintable_ofString rfl
  nameMark := isPrintable_ofString rfl
  escape := isPrintable_asciiEscape
  number := Number.isPrintable_write (isPrintable_ofString rfl) (isPrintable_ofString rfl)

theorem Style.record_printable : Style.record.Printable where
  itemMark := isPrintable_ofString rfl
  nameMark := isPrintable_ofString rfl
  escape := isPrintable_asciiEscape
  number := Number.isPrintable_write (isPrintable_ofString rfl) (isPrintable_ofString rfl)

theorem isPrintable_integer {n : Int} {t : Text} (h : integer n = .ok t) : t.IsPrintable := by
  unfold integer at h
  simp only [] at h
  split at h
  · cases h
  · split at h
    · cases h
      exact IsPrintable.append (isPrintable_ofString rfl) (isPrintable_ofNat _)
    · cases h
      exact isPrintable_ofNat _

section Writer
variable {style : Style} (hs : style.Printable)
include hs

theorem isPrintable_real {x : Binary64} {t : Text} (h : real style x = .ok t) :
    t.IsPrintable := by
  unfold real at h
  split at h
  · cases h
    exact hs.number x
  · split at h
    · cases h
    · cases h
      exact hs.number x
    · cases h
      exact isPrintable_ofString rfl

theorem isPrintable_text {u t : Text} (h : text style u = .ok t) : t.IsPrintable := by
  unfold text at h
  split at h
  · cases h
  · cases h
    exact isPrintable_quote hs.escape u

theorem isPrintable_name {k : Value} {t : Text} (h : name style k = .ok t) : t.IsPrintable := by
  have quoted := isPrintable_quote hs.escape
  cases k with
  | null | bool | text =>
      cases h
      exact quoted _
  | int n =>
      obtain ⟨u, -, rfl⟩ := Except.map_ok h
      exact quoted _
  | real x =>
      obtain ⟨u, -, rfl⟩ := Except.map_ok h
      exact quoted _
  | _ => cases h

theorem isPrintable_foreignLeaf {v : Value} {t : Text} (h : foreignLeaf style v = .ok t) :
    t.IsPrintable := by
  have quoted := isPrintable_quote hs.escape
  unfold foreignLeaf at h
  split at h
  · cases h
    exact quoted _
  · split at h
    · cases h
      exact quoted _
    · cases h
  · cases h

theorem isPrintable_brackets {items : List Text} (h : ∀ t ∈ items, t.IsPrintable) :
    (brackets style items).IsPrintable :=
  (IsPrintable.append (isPrintable_ofString rfl) (IsPrintable.join hs.itemMark h)).append
    (isPrintable_ofString rfl)

theorem isPrintable_braces {members : List Text} (h : ∀ t ∈ members, t.IsPrintable) :
    (braces style members).IsPrintable :=
  (IsPrintable.append (isPrintable_ofString rfl) (IsPrintable.join hs.itemMark h)).append
    (isPrintable_ofString rfl)

end Writer

mutual

theorem isPrintable_write {style : Style} (hs : style.Printable) (v : Value) {t : Text}
    (h : write style v = .ok t) : t.IsPrintable := by
  cases v with
  | null =>
      cases h
      exact isPrintable_ofString rfl
  | bool b =>
      cases h
      cases b <;> exact isPrintable_ofString rfl
  | int n => exact isPrintable_integer h
  | real x => exact isPrintable_real hs h
  | text u => exact isPrintable_text hs h
  | list items | tuple items =>
      obtain ⟨ts, written, rfl⟩ := Except.map_ok h
      exact isPrintable_brackets hs (isPrintable_writeItems hs items written)
  | map members =>
      obtain ⟨ts, written, rfl⟩ := Except.map_ok h
      exact isPrintable_braces hs (isPrintable_writeMembers hs members written)
  | set items =>
      rw [write_set] at h
      split at h
      · obtain ⟨ts, written, rfl⟩ := Except.map_ok h
        exact isPrintable_brackets hs (isPrintable_writeItems hs items written)
      · exact isPrintable_foreignLeaf hs h
  | endless isMap => cases h
  | bytes b => exact isPrintable_foreignLeaf hs h
  | thing shown => exact isPrintable_foreignLeaf hs h

theorem isPrintable_writeItems {style : Style} (hs : style.Printable) (items : List Value)
    {ts : List Text} (h : writeItems style items = .ok ts) : ∀ t ∈ ts, t.IsPrintable := by
  cases items with
  | nil =>
      cases h
      exact List.forall_mem_nil _
  | cons v rest =>
      obtain ⟨first, written, h⟩ := Except.bind_ok h
      obtain ⟨more, others, h⟩ := Except.bind_ok h
      cases h
      exact List.forall_mem_cons.mpr
        ⟨isPrintable_write hs v written, isPrintable_writeItems hs rest others⟩

theorem isPrintable_writeMembers {style : Style} (hs : style.Printable)
    (members : List (Value × Value)) {ts : List Text}
    (h : writeMembers style members = .ok ts) : ∀ t ∈ ts, t.IsPrintable := by
  cases members with
  | nil =>
      cases h
      exact List.forall_mem_nil _
  | cons m rest =>
      obtain ⟨key, named, h⟩ := Except.bind_ok h
      obtain ⟨value, written, h⟩ := Except.bind_ok h
      obtain ⟨more, others, h⟩ := Except.bind_ok h
      cases h
      refine List.forall_mem_cons.mpr ⟨?_, isPrintable_writeMembers hs rest others⟩
      exact ((isPrintable_name hs named).append hs.nameMark).append
        (isPrintable_write hs m.2 written)

end

/-! ## What can be written -/

/-- A value can be written into a response. -/
def Writable (v : Value) : Prop := ∃ t, write .response v = .ok t

theorem writable_text (t : Text) : Writable (.text t) := ⟨_, rfl⟩

theorem writable_list_singleton {v : Value} : Writable (.list [v]) ↔ Writable v := by
  constructor
  · rintro ⟨t, h⟩
    rw [write_list, writeItems_cons] at h
    obtain ⟨ts, written, -⟩ := Except.map_ok h
    obtain ⟨first, h, -⟩ := Except.bind_ok written
    exact ⟨first, h⟩
  · rintro ⟨t, h⟩
    refine ⟨brackets .response [t], ?_⟩
    rw [write_list, writeItems_cons, h]
    rfl

theorem writable_object_nil : Writable (Value.object []) := ⟨_, rfl⟩

theorem writable_object_cons {k : Text} {v : Value} {members : Members} :
    Writable (Value.object ((k, v) :: members)) ↔ Writable v ∧ Writable (Value.object members) := by
  constructor
  · rintro ⟨t, h⟩
    rw [Value.object, List.map_cons, write_map, writeMembers_cons] at h
    obtain ⟨ts, written, -⟩ := Except.map_ok h
    obtain ⟨key, -, written⟩ := Except.bind_ok written
    obtain ⟨value, h, written⟩ := Except.bind_ok written
    obtain ⟨more, others, -⟩ := Except.bind_ok written
    refine ⟨⟨value, h⟩, braces .response more, ?_⟩
    rw [Value.object, write_map, others]
    rfl
  · rintro ⟨⟨value, h⟩, ⟨t, others⟩⟩
    rw [Value.object, write_map] at others
    obtain ⟨more, others, -⟩ := Except.map_ok others
    let member := quote Style.response.escape k ++ Style.response.nameMark ++ value
    refine ⟨braces .response (member :: more), ?_⟩
    rw [Value.object, List.map_cons, write_map, writeMembers_cons, h, others]
    rfl

theorem writeMembers_singleton {style : Style} (wide : style.inUtf8 = false) {name t : Text}
    {v : Value} (h : write style v = .ok t) :
    writeMembers style [(.text name, v)] =
      .ok [quote style.escape name ++ style.nameMark ++ t] := by
  rw [writeMembers_cons, name_text (.inl wide), h]
  rfl

theorem writeMembers_append {style : Style} {members more : List (Value × Value)}
    {ts us : List Text} (h : writeMembers style members = .ok ts)
    (later : writeMembers style more = .ok us) :
    writeMembers style (members ++ more) = .ok (ts ++ us) := by
  induction members generalizing ts with
  | nil =>
      cases h
      exact later
  | cons m rest ih =>
      rw [writeMembers_cons] at h
      obtain ⟨key, named, h⟩ := Except.bind_ok h
      obtain ⟨value, written, h⟩ := Except.bind_ok h
      obtain ⟨others, wrote, h⟩ := Except.bind_ok h
      cases h
      rw [List.cons_append, writeMembers_cons, named, Except.ok_bind, written, Except.ok_bind,
        ih wrote]
      rfl

/-- Items that could be written could be written one by one. -/
theorem write_of_mem_items {style : Style} {items : List Value} {ts : List Text}
    (h : writeItems style items = .ok ts) : ∀ v ∈ items, ∃ t, write style v = .ok t := by
  induction items generalizing ts with
  | nil => exact List.forall_mem_nil _
  | cons v rest ih =>
      obtain ⟨first, written, h⟩ := Except.bind_ok h
      obtain ⟨more, others, -⟩ := Except.bind_ok h
      exact List.forall_mem_cons.mpr ⟨⟨first, written⟩, ih others⟩

/-- So could the values of members. -/
theorem write_of_mem_members {style : Style} {members : List (Value × Value)} {ts : List Text}
    (h : writeMembers style members = .ok ts) : ∀ m ∈ members, ∃ t, write style m.2 = .ok t := by
  induction members generalizing ts with
  | nil => exact List.forall_mem_nil _
  | cons m rest ih =>
      obtain ⟨key, -, h⟩ := Except.bind_ok h
      obtain ⟨value, written, h⟩ := Except.bind_ok h
      obtain ⟨more, others, -⟩ := Except.bind_ok h
      exact List.forall_mem_cons.mpr ⟨⟨value, written⟩, ih others⟩

end Json

end QueryGateway
