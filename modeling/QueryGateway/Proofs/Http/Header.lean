import Mathlib.Data.List.Forall2
import Mathlib.Data.List.Nodup
import QueryGateway.Http.Header

/-!
# Looking up a header

A table of headers is searched for the exact name first and then for any name with the same small
letters. `Finds` says what that comes to, without the two searches: the value of the name itself, or
else of the first name with its small letters (`get?_eq_some_iff`).

Where only one header passes for the name, the two searches are one: the header is found, and
nothing else in the table counts (`Unambiguous.get?_eq_some`). Then two tables answer alike as soon
as they have the same in small letters (`Unambiguous.get?_congr`), whatever their order, the case of
their names and their other headers. In every table it is the names that are looked at, and not the
values (`get?_rel`).

Nothing is used of small letters but that every name has one form in them: how a letter is written
small may depend on its neighbours.
-/

namespace QueryGateway.Http.Headers

/-- No two headers pass for the one with this name. -/
def Unambiguous (headers : Headers) (name : Text) : Prop :=
  ∀ h ∈ headers, ∀ h' ∈ headers, h.1.lower = name.lower → h'.1.lower = name.lower → h = h'

instance (headers : Headers) (name : Text) : Decidable (headers.Unambiguous name) :=
  List.decidableBAll _ headers

/-- Then it does not matter that the exact name is looked for first. -/
theorem Unambiguous.get?_eq {headers : Headers} {name : Text} (h : headers.Unambiguous name) :
    headers.get? name = headers.folded? name := by
  unfold get? literal? folded?
  cases exact : headers.find? fun h => h.1 = name with
  | none => rfl
  | some found =>
      have mem := List.mem_of_find?_eq_some exact
      have named : found.1 = name := by simpa using List.find?_some exact
      cases folded : headers.find? fun h => h.1.lower = name.lower with
      | none =>
          have none := List.find?_eq_none.mp folded found mem
          rw [named] at none
          exact absurd (decide_eq_true rfl) none
      | some found' =>
          have mem' := List.mem_of_find?_eq_some folded
          have named' : found'.1.lower = name.lower := by simpa using List.find?_some folded
          rw [h found mem found' mem' (by rw [named]) named']
          rfl

theorem folded?_eq_some {headers : Headers} {name value : Text}
    (h : headers.folded? name = some value) : ∃ k, (k, value) ∈ headers ∧ k.lower = name.lower := by
  obtain ⟨⟨k, _⟩, found, rfl⟩ := Option.map_eq_some_iff.mp h
  have named := List.find?_some found
  exact ⟨k, List.mem_of_find?_eq_some found, of_decide_eq_true named⟩

/-- The header is found wherever it stands, and whatever the case of its name. -/
theorem Unambiguous.get?_eq_some {headers : Headers} {name value : Text}
    (h : headers.Unambiguous name) :
    headers.get? name = some value ↔ ∃ k, (k, value) ∈ headers ∧ k.lower = name.lower := by
  rw [h.get?_eq]
  refine ⟨folded?_eq_some, ?_⟩
  rintro ⟨k, mem, named⟩
  cases found : headers.folded? name with
  | none =>
      have none := List.find?_eq_none.mp (Option.map_eq_none_iff.mp found) (k, value) mem
      exact absurd (decide_eq_true named) none
  | some value' =>
      obtain ⟨k', mem', named'⟩ := folded?_eq_some found
      cases h (k, value) mem (k', value') mem' named named'
      rfl

/-! ## Tables with the same names -/

section Values
variable {R : Text → Text → Prop} {headers headers' : Headers}

theorem find?_rel (same : List.Forall₂ (fun h h' => h.1 = h'.1 ∧ R h.2 h'.2) headers headers')
    (p : Text → Bool) :
    Option.Rel R ((headers.find? fun h => p h.1).map (·.2))
      ((headers'.find? fun h => p h.1).map (·.2)) := by
  induction same with
  | nil => exact .none
  | @cons h h' rest rest' first more ih =>
      obtain ⟨name, value⟩ := first
      rw [List.find?_cons, List.find?_cons, ← name]
      cases p h.1 with
      | false => exact ih
      | true => exact .some value

/-- What is found under a name is found in the same place of every table with the same names. -/
theorem get?_rel (same : List.Forall₂ (fun h h' => h.1 = h'.1 ∧ R h.2 h'.2) headers headers')
    (name : Text) : Option.Rel R (headers.get? name) (headers'.get? name) := by
  have exact : Option.Rel R (headers.literal? name) (headers'.literal? name) :=
    find?_rel same fun k => k = name
  have folded : Option.Rel R (headers.folded? name) (headers'.folded? name) :=
    find?_rel same fun k => k.lower = name.lower
  rw [get?, get?]
  generalize headers.literal? name = found, headers'.literal? name = found' at exact ⊢
  cases exact with
  | none => exact folded
  | some value => exact .some value

end Values

/-! ## Which header is found -/

/-- Every name is bound once, as in a mapping. -/
def IsTable (headers : Headers) : Prop := (headers.map Prod.fst).Nodup

instance (headers : Headers) : Decidable headers.IsTable :=
  inferInstanceAs (Decidable (List.Nodup _))

/-- The value that a name finds: its own, or else that of the first name with the same small
letters. -/
inductive Finds (headers : Headers) (name : Text) : Text → Prop
  | own {value : Text} : (name, value) ∈ headers → Finds headers name value
  | first {before after : Headers} {k value : Text} :
      (∀ h ∈ headers, h.1 ≠ name) → headers = before ++ (k, value) :: after →
        k.lower = name.lower → (∀ h ∈ before, h.1.lower ≠ name.lower) → Finds headers name value

section Search
variable {headers : Headers} {name value : Text}

theorem literal?_eq_none_iff : headers.literal? name = none ↔ ∀ h ∈ headers, h.1 ≠ name := by
  simp only [literal?, Option.map_eq_none_iff, List.find?_eq_none, decide_eq_true_eq, ne_eq]

theorem folded?_eq_none_iff :
    headers.folded? name = none ↔ ∀ h ∈ headers, h.1.lower ≠ name.lower := by
  simp only [folded?, Option.map_eq_none_iff, List.find?_eq_none, decide_eq_true_eq, ne_eq]

theorem mem_of_literal?_eq_some (h : headers.literal? name = some value) :
    (name, value) ∈ headers := by
  obtain ⟨⟨k, _⟩, found, rfl⟩ := Option.map_eq_some_iff.mp h
  have passed := List.find?_some found
  have named : k = name := of_decide_eq_true passed
  rw [← named]
  exact List.mem_of_find?_eq_some found

theorem IsTable.literal?_eq_some_iff (table : headers.IsTable) :
    headers.literal? name = some value ↔ (name, value) ∈ headers := by
  constructor
  · intro found
    exact mem_of_literal?_eq_some found
  · intro mem
    cases found : headers.literal? name with
    | none => exact absurd rfl (literal?_eq_none_iff.mp found _ mem)
    | some value' =>
        have same := List.inj_on_of_nodup_map table mem (mem_of_literal?_eq_some found) rfl
        exact congrArg (fun h => some h.2) same.symm

theorem folded?_eq_some_iff :
    headers.folded? name = some value ↔
      ∃ before k after, headers = before ++ (k, value) :: after ∧ k.lower = name.lower ∧
        ∀ h ∈ before, h.1.lower ≠ name.lower := by
  simp only [folded?, Option.map_eq_some_iff, List.find?_eq_some_iff_append, decide_eq_true_eq,
    Bool.not_eq_true', decide_eq_false_iff_not]
  constructor
  · rintro ⟨⟨k, _⟩, ⟨named, before, after, split, others⟩, rfl⟩
    exact ⟨before, k, after, split, named, others⟩
  · rintro ⟨before, k, after, split, named, others⟩
    exact ⟨(k, value), ⟨named, before, after, split, others⟩, rfl⟩

/-- A name is missing if no name in the table has its small letters. -/
theorem get?_eq_none_iff : headers.get? name = none ↔ ∀ h ∈ headers, h.1.lower ≠ name.lower := by
  simp only [get?, Option.orElse_eq_orElse, Option.orElse_eq_or, Option.or_eq_none_iff,
    literal?_eq_none_iff, folded?_eq_none_iff]
  constructor
  · exact And.right
  · intro missing
    refine ⟨?_, missing⟩
    intro h mem named
    exact missing h mem (congrArg Text.lower named)

theorem get?_eq_some_iff (table : headers.IsTable) :
    headers.get? name = some value ↔ headers.Finds name value := by
  rw [get?]
  cases own : headers.literal? name with
  | none =>
      have other := literal?_eq_none_iff.mp own
      refine folded?_eq_some_iff.trans ⟨?_, ?_⟩
      · rintro ⟨before, k, after, split, named, earlier⟩
        exact .first other split named earlier
      · intro finds
        cases finds with
        | own mem => exact absurd rfl (other _ mem)
        | first _ split named earlier => exact ⟨_, _, _, split, named, earlier⟩
  | some value' =>
      have mem := mem_of_literal?_eq_some own
      constructor
      · rintro ⟨⟩
        exact .own mem
      · intro finds
        cases finds with
        | own mem => exact own.symm.trans (table.literal?_eq_some_iff.mpr mem)
        | first other => exact absurd rfl (other _ mem)

end Search

/-! ## What does not count -/

/-- The headers with their names in small letters. -/
def lowered (headers : Headers) : Headers := headers.map fun h => (h.1.lower, h.2)

/-- No two names are the same but for their case. -/
def Distinct (headers : Headers) : Prop := headers.lowered.IsTable

instance (headers : Headers) : Decidable headers.Distinct :=
  inferInstanceAs (Decidable (IsTable _))

section Frame
variable {headers headers' others : Headers} {name value : Text}

theorem mem_lowered {k : Text} :
    (k, value) ∈ headers.lowered ↔ ∃ h ∈ headers, h.1.lower = k ∧ h.2 = value := by
  simp only [lowered, List.mem_map, Prod.mk.injEq]

theorem Distinct.unambiguous (distinct : headers.Distinct) (name : Text) :
    headers.Unambiguous name := by
  intro h mem h' mem' named named'
  have small : headers.map (Prod.fst ∘ fun h => (h.1.lower, h.2)) |>.Nodup := by
    rw [← List.map_map]
    exact distinct
  exact List.inj_on_of_nodup_map small mem mem' (named.trans named'.symm)

/-- In small letters a header stands under the name itself. -/
theorem Unambiguous.get?_eq_some_lowered (h : headers.Unambiguous name) :
    headers.get? name = some value ↔ (name.lower, value) ∈ headers.lowered := by
  rw [h.get?_eq_some, mem_lowered]
  constructor
  · rintro ⟨k, mem, named⟩
    exact ⟨(k, value), mem, named, rfl⟩
  · rintro ⟨⟨k, _⟩, mem, named, rfl⟩
    exact ⟨k, mem, named⟩

/-- Two tables answer alike where they have the same in small letters. -/
theorem Unambiguous.get?_congr {name' : Text} (h : headers.Unambiguous name)
    (h' : headers'.Unambiguous name')
    (same : ∀ value,
      (name'.lower, value) ∈ headers'.lowered ↔ (name.lower, value) ∈ headers.lowered) :
    headers'.get? name' = headers.get? name := by
  apply Option.ext
  intro value
  rw [h.get?_eq_some_lowered, h'.get?_eq_some_lowered]
  exact same value

theorem Distinct.perm (distinct : headers.Distinct) (perm : headers'.Perm headers) :
    headers'.Distinct :=
  ((perm.map _).map _).nodup_iff.mpr distinct

/-- The order does not count. -/
theorem Distinct.get?_perm (distinct : headers.Distinct) (perm : headers'.Perm headers)
    (name : Text) : headers'.get? name = headers.get? name := by
  refine (distinct.unambiguous name).get?_congr ((distinct.perm perm).unambiguous name) ?_
  intro value
  exact (perm.map _).mem_iff

/-- The case of the name does not count. -/
theorem Distinct.get?_recased (distinct : headers.Distinct) {name' : Text}
    (same : name'.lower = name.lower) : headers.get? name' = headers.get? name := by
  refine (distinct.unambiguous name).get?_congr (distinct.unambiguous name') ?_
  intro value
  rw [same]

/-- The case of the names in the table does not count. -/
theorem Distinct.get?_lowered (distinct : headers.Distinct)
    (same : headers'.lowered = headers.lowered) (name : Text) :
    headers'.get? name = headers.get? name := by
  have distinct' : headers'.Distinct := by rwa [Distinct, same]
  refine (distinct.unambiguous name).get?_congr (distinct'.unambiguous name) ?_
  intro value
  rw [same]

theorem Unambiguous.of_within (h : headers.Unambiguous name)
    (within : ∀ a ∈ headers', a.1.lower = name.lower → a ∈ headers) :
    headers'.Unambiguous name := by
  intro a mem b mem' named named'
  exact h a (within a mem named) b (within b mem' named') named named'

/-- Headers that do not pass for the name do not count, nor does where they stand. -/
theorem Unambiguous.get?_others (h : headers.Unambiguous name)
    (foreign : ∀ h ∈ others, h.1.lower ≠ name.lower) (perm : headers'.Perm (headers ++ others)) :
    headers'.get? name = headers.get? name := by
  have within : ∀ a ∈ headers', a.1.lower = name.lower → a ∈ headers := by
    intro a mem named
    rcases List.mem_append.mp (perm.mem_iff.mp mem) with inside | outside
    · exact inside
    · exact absurd named (foreign a outside)
  refine h.get?_congr (h.of_within within) ?_
  intro value
  simp only [mem_lowered]
  constructor
  · rintro ⟨header, mem, named, rfl⟩
    exact ⟨header, within header mem named, named, rfl⟩
  · rintro ⟨header, mem, named, rfl⟩
    exact ⟨header, perm.mem_iff.mpr (List.mem_append_left others mem), named, rfl⟩

end Frame

/-- A header is missing if no name in the table has the small letters of the name. Otherwise the
value of the name itself is found, or else that of the first name with its small letters, an empty
value like any other. In a table whose names differ in more than their case neither the order counts
nor the case of any name, nor which other headers there are. -/
theorem found_whatever_case (headers : Headers) (name : Text) (table : headers.IsTable) :
    (headers.get? name = none ↔ ∀ h ∈ headers, h.1.lower ≠ name.lower) ∧
    (∀ value, headers.get? name = some value ↔ headers.Finds name value) ∧
    (headers.Distinct →
      (∀ headers' : Headers, headers'.Perm headers → headers'.get? name = headers.get? name) ∧
      (∀ name' : Text, name'.lower = name.lower → headers.get? name' = headers.get? name) ∧
      (∀ headers' : Headers, headers'.lowered = headers.lowered →
        headers'.get? name = headers.get? name) ∧
      ∀ headers' others : Headers, (∀ h ∈ others, h.1.lower ≠ name.lower) →
        headers'.Perm (headers ++ others) ∨ headers.Perm (headers' ++ others) →
          headers'.get? name = headers.get? name) := by
  refine ⟨get?_eq_none_iff, fun value => get?_eq_some_iff table, ?_⟩
  intro distinct
  refine ⟨fun headers' perm => distinct.get?_perm perm name,
    fun name' same => distinct.get?_recased same,
    fun headers' same => distinct.get?_lowered same name, ?_⟩
  rintro headers' others foreign (added | removed)
  · exact (distinct.unambiguous name).get?_others foreign added
  · have kept : headers'.Unambiguous name := by
      refine (distinct.unambiguous name).of_within ?_
      intro a mem _
      exact removed.mem_iff.mpr (List.mem_append_left others mem)
    exact (kept.get?_others foreign removed).symm

/-- Names of which the first ends in a letter whose small form depends on where it stands. -/
def mixedCaseTable : Headers := [("ΟΔΟΣ", "Via"), ("X-Empty", ""), ("authorization", "Bearer a")]

/-- Two headers of one name but for its case. -/
def repeatedAccept : Headers := [("accept", "*/*"), ("ACCEPT", "")]

theorem found_whatever_case_mixedCase :
    mixedCaseTable.IsTable ∧ mixedCaseTable.Distinct ∧
    mixedCaseTable.get? "οδος" = some "Via" ∧ mixedCaseTable.get? "οδοσ" = none ∧
    get? mixedCaseTable.reverse "X-EMPTY" = some "" ∧
    get? (mixedCaseTable ++ repeatedAccept) "Authorization" = some "Bearer a" := by
  have table : mixedCaseTable.IsTable := by decide +kernel
  have distinct : mixedCaseTable.Distinct := by decide +kernel
  have small : mixedCaseTable.Finds "οδος" "Via" :=
    .first (by decide +kernel) (List.nil_append mixedCaseTable).symm (by decide +kernel)
      (List.forall_mem_nil _)
  have empty : mixedCaseTable.Finds "X-EMPTY" "" :=
    .first (by decide +kernel) (List.take_append_drop 1 mixedCaseTable).symm (by decide +kernel)
      (by decide +kernel)
  have bearer : mixedCaseTable.Finds "Authorization" "Bearer a" :=
    .first (by decide +kernel) (List.take_append_drop 2 mixedCaseTable).symm (by decide +kernel)
      (by decide +kernel)
  have foreign : ∀ h ∈ repeatedAccept, h.1.lower ≠ Text.lower "Authorization" := by decide +kernel
  refine ⟨table, distinct, ((found_whatever_case mixedCaseTable _ table).2.1 _).mpr small,
    (found_whatever_case mixedCaseTable _ table).1.mpr (by decide +kernel), ?_, ?_⟩
  · rw [((found_whatever_case mixedCaseTable _ table).2.2 distinct).1 _
      (List.reverse_perm mixedCaseTable)]
    exact ((found_whatever_case mixedCaseTable _ table).2.1 _).mpr empty
  · rw [((found_whatever_case mixedCaseTable _ table).2.2 distinct).2.2.2 _ repeatedAccept foreign
      (.inl (.refl _))]
    exact ((found_whatever_case mixedCaseTable _ table).2.1 _).mpr bearer

end QueryGateway.Http.Headers
