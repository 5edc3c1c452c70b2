import QueryGateway.Proofs.Credential.ApiKey
import QueryGateway.Proofs.Json.RoundTrip
import QueryGateway.Proofs.Settings.Sources

/-!
# Key records in the settings

A key record is written if its texts are Unicode text, and then it is written on one line, and every
dialect of JSON reads it back. So the lines of several records between brackets are a setting that
holds just these records (`load_stored`).
-/

namespace QueryGateway

open Text

namespace Json

/-! ## Tables of texts and nulls -/

/-- The text holds no control character, and so no line end. -/
def Visible (t : Text) : Prop := ∀ c ∈ t, 0x20 ≤ c.val

theorem visible_of_isPrintable {t : Text} (h : t.IsPrintable) : Visible t := by
  intro c mem
  have range := h c mem
  simp only [CodePoint.isPrintableAscii, Bool.and_eq_true, decide_eq_true_eq] at range
  exact range.1

theorem visible_plainEscape (c : CodePoint) : Visible (plainEscape c) := by
  unfold plainEscape
  split
  · rename_i e escape
    exact visible_of_isPrintable (isPrintable_shortEscape escape)
  · split
    · exact visible_of_isPrintable (isPrintable_numberEscape c)
    · rename_i large
      exact List.forall_mem_singleton.mpr (Nat.le_of_not_lt large)

theorem visible_ofString {s : String}
    (h : (s.toList.all fun x => (CodePoint.ofChar x).isPrintableAscii) = true) :
    Visible (ofString s) :=
  visible_of_isPrintable (isPrintable_ofString h)

theorem Visible.append {s t : Text} (hs : Visible s) (ht : Visible t) : Visible (s ++ t) :=
  List.forall_mem_append.mpr ⟨hs, ht⟩

theorem visible_quote (t : Text) : Visible (quote plainEscape t) := by
  have quotes : Visible (ofString "\"") := visible_ofString rfl
  have escaped : Visible (t.flatMap plainEscape) :=
    List.forall_mem_flatMap.mpr fun c _ => visible_plainEscape c
  exact (quotes.append escaped).append quotes

/-- Unicode text or null. -/
inductive Plain : Value → Prop
  | null : Plain .null
  | text {t : Text} : t.IsScalar → Plain (.text t)

variable (d : Dialect) (depth : Nat)

theorem Plain.conveys {v : Value} (h : Plain v) :
    ∃ t, Conveys .envelope d id depth v t ∧ Visible t := by
  cases h with
  | null => exact ⟨"null", ⟨rfl, .scalar (.named (.head _))⟩, visible_ofString rfl⟩
  | @text t scalar =>
      exact ⟨_, ⟨text_eq (.inr scalar), .text (chars_plainEscape t)⟩, visible_quote t⟩

/-- A table of texts and nulls is written on one line, and that is JSON for it in every dialect. -/
theorem exists_conveys_object {members : Members} (distinct : members.Distinct)
    (names : ∀ m ∈ members, m.1.IsScalar) (plain : ∀ m ∈ members, Plain m.2) :
    ∃ t, Conveys .envelope d id (depth + 1) (Value.object members) t ∧ Visible t := by
  have each : ∀ m ∈ members, ∃ t, ConveysMember .envelope d id id depth m t ∧ Visible t := by
    intro m mem
    obtain ⟨w, value, visible⟩ := (plain m mem).conveys d depth
    have mark : Visible (ofString ":") := visible_ofString rfl
    exact ⟨_, .member (name_text (.inr (names m mem))) (chars_plainEscape m.1) value,
      ((visible_quote m.1).append mark).append visible⟩
  obtain ⟨ts, all⟩ := exists_texts each
  have whole : id (Value.object members) =
      Value.object (resolve (members.map fun m => (id m.1, id m.2))) := by
    have same : resolve members = members := Members.update_of_distinct distinct
    rw [show (members.map fun m => (id m.1, id m.2)) = members from List.map_id members, same]
    rfl
  refine ⟨_, conveys_object Style.regular_envelope whole (all.imp fun _ _ h => h.1), ?_⟩
  have visible : ∀ t ∈ ts, Visible t := forall_mem_of_related all fun h => h.2
  have braces : Visible (ofString "\x7b") ∧ Visible (ofString "\x7d") :=
    ⟨visible_ofString rfl, visible_ofString rfl⟩
  exact (braces.1.append (forall_mem_join (visible_ofString rfl) visible)).append braces.2

/-- A table is written only if each of its values is. -/
theorem values_of_write {members : Members} {t : Text}
    (h : write .envelope (Value.object members) = .ok t) :
    ∀ m ∈ members, ∃ w, write .envelope m.2 = .ok w := by
  obtain ⟨ts, written, -⟩ := Except.map_ok h
  induction members generalizing ts t with
  | nil => exact List.forall_mem_nil _
  | cons m rest ih =>
      obtain ⟨key, -, written⟩ := Except.bind_ok written
      obtain ⟨w, value, written⟩ := Except.bind_ok written
      obtain ⟨more, later, -⟩ := Except.bind_ok written
      refine List.forall_mem_cons.mpr ⟨⟨w, value⟩, ih (t := braces .envelope more) ?_ more later⟩
      exact congrArg (Except.map (braces .envelope)) later

theorem isScalar_of_write {t w : Text} (h : write .envelope (.text t) = .ok w) : t.IsScalar := by
  refine isScalar_iff.mp ?_
  rw [write_text, text] at h
  cases scalar : t.isScalar with
  | true => rfl
  | false =>
      rw [scalar] at h
      cases h

end Json

open Json

/-! ## Records -/

namespace Credential.ApiKey

/-- The names of the fields of a record. -/
def fieldNames : List String :=
  ["key_id", "key_hash", "user_id", "status", "created_at", "description"]

theorem names_members (k : ApiKey) : k.members.map Prod.fst = fieldNames.map ofString := rfl

theorem distinct_members (k : ApiKey) : k.members.Distinct := by
  rw [Members.Distinct, names_members]
  decide

theorem isScalar_names (k : ApiKey) : ∀ m ∈ k.members, m.1.IsScalar := fun m mem =>
  isScalar_literals fieldNames m.1 (k.names_members ▸ List.mem_map_of_mem mem)

theorem nullable_members (k : ApiKey) : ∀ m ∈ k.members, ∃ o, m.2 = nullable o := by
  simp only [members, List.forall_mem_cons]
  exact ⟨⟨some _, rfl⟩, ⟨some _, rfl⟩, ⟨some _, rfl⟩, ⟨some _, rfl⟩, ⟨_, rfl⟩, ⟨_, rfl⟩,
    List.forall_mem_nil _⟩

theorem plain_nullable {o : Option Text} (scalar : ∀ t, o = some t → t.IsScalar) :
    Plain (nullable o) := by
  cases o with
  | none => exact .null
  | some t => exact .text (scalar t rfl)

/-- A record with a line has Unicode text only. -/
theorem plain_members {k : ApiKey} {t : Text} (h : k.json = .ok t) :
    ∀ m ∈ k.members, Plain m.2 := by
  intro m mem
  obtain ⟨o, value⟩ := k.nullable_members m mem
  obtain ⟨w, written⟩ := values_of_write h m mem
  rw [value] at written ⊢
  refine plain_nullable fun t told => ?_
  rw [told] at written
  exact isScalar_of_write written

theorem exists_json {k : ApiKey} (plain : ∀ m ∈ k.members, Plain m.2) : ∃ t, k.json = .ok t := by
  obtain ⟨t, conveys, -⟩ :=
    exists_conveys_object .setting 0 k.distinct_members k.isScalar_names plain
  exact ⟨t, conveys.written⟩

/-- The JSON of a record stands on one line, and it is JSON for the record in every dialect. -/
theorem json_val {k : ApiKey} {t : Text} (h : k.json = .ok t) (d : Dialect) (depth : Nat) :
    Val d (depth + 1) t (Value.object k.members) ∧ Visible t := by
  obtain ⟨t', conveys, visible⟩ := exists_conveys_object d depth k.distinct_members
    k.isScalar_names (plain_members h)
  cases Except.ok.inj (h.symm.trans conveys.written)
  exact ⟨conveys.denotes, visible⟩

theorem read?_json {k : ApiKey} {t : Text} (h : k.json = .ok t) {d : Dialect}
    (room : within d.maxDepth 1 = true) : Json.read? d t = some (Value.object k.members) := by
  have document := Denotes.document room blank_nil (json_val h d 0).1 blank_nil
  rw [List.nil_append, List.append_nil] at document
  exact read?_eq_some_iff.mpr document

end Credential.ApiKey

/-! ## The setting -/

namespace Settings

open Credential

theorem records_objects {stored : List Members} (n : Nat)
    (distinct : ∀ members ∈ stored, members.Distinct) :
    records n (stored.map Value.object) = .ok stored := by
  induction stored generalizing n with
  | nil => rfl
  | cons members rest ih =>
      obtain ⟨first, later⟩ := List.forall_mem_cons.mp distinct
      rw [List.map_cons, records, Form.table_any first, ih (n + 1) later]
      rfl

/-- A deployment that is told of stored keys by a variable alone. -/
def Sources.ofVariable (t : Text) : Sources := ⟨[("API_KEYS", t)], none, []⟩

theorem Sources.inEnvironment?_ofVariable (t name : Text) :
    (ofVariable t).inEnvironment? name = if apiKeysName = name then some t else none := by
  have small : lower "API_KEYS" = apiKeysName := by decide +kernel
  exact small ▸ spelled?_snoc [] _

/-- What is read from the variable is stored, and nothing else is set. -/
theorem Sources.load_ofVariable {t : Text} {items : List Value} {stored : List Members}
    (read : Json.read? Json.Dialect.setting t = some (.list items))
    (keys : readApiKeys (.list items) = .ok stored) :
    (ofVariable t).load = .ok { standard with apiKeys := stored } := by
  have held : (ofVariable t).inEnvironment? apiKeysName = some t :=
    (inEnvironment?_ofVariable t apiKeysName).trans (if_pos rfl)
  have meant : meant? apiKeysName t = some (.list items) := by rw [meant?, if_pos rfl, read]
  have unsaid {name : Text} (other : apiKeysName ≠ name) : (ofVariable t).value? name = none :=
    value?_of_none rfl ((inEnvironment?_ofVariable t name).trans (if_neg other)) rfl
  refine load_eq_ok_iff.mpr ⟨fun u same => ?_, legible_of_none rfl, ?_⟩
  · cases held.symm.trans same
    exact ⟨_, read⟩
  · exact {
      logLevel := reads_none (unsaid (by decide))
      apiTitle := reads_none (unsaid (by decide))
      apiVersion := reads_none (unsaid (by decide))
      enableAccessLog := reads_none (unsaid (by decide))
      enableCompression := reads_none (unsaid (by decide))
      showFailureCause := reads_none (unsaid (by decide))
      apiKeys := reads_some (value?_of_environment rfl held meant) keys }

/-- The lines of key records between brackets, with commas between them, are a setting that holds
these records. -/
theorem load_stored {keys : List ApiKey} {lines : List Text}
    (written : List.Forall₂ (fun k t => k.json = .ok t) keys lines) :
    load [("API_KEYS", Json.brackets .envelope lines)] none [] =
      .ok { standard with apiKeys := keys.map ApiKey.members } := by
  have values : List.Forall₂ (Val Dialect.setting 1) lines
      ((keys.map ApiKey.members).map Value.object) := by
    induction written with
    | nil => exact .nil
    | cons first _ ih => exact .cons (ApiKey.json_val first _ 0).1 ih
  have document := Denotes.document (d := Dialect.setting) rfl blank_nil
    (val_brackets Style.regular_envelope values) blank_nil
  rw [List.nil_append, List.append_nil] at document
  have stored : readApiKeys (.list ((keys.map ApiKey.members).map Value.object)) =
      .ok (keys.map ApiKey.members) :=
    records_objects 0 (List.forall_mem_map.mpr fun k _ => k.distinct_members)
  exact Sources.load_ofVariable (read?_eq_some_iff.mpr document) stored

end Settings

end QueryGateway
