import Mathlib.Data.List.Forall2
import QueryGateway.Proofs.Number.Binary64
import QueryGateway.Value.Key

/-!
# Equality of keys is an equivalence

`Key.same` compares the keys that `Key.ofValue` makes of values, and it is equality (`same_iff_eq`).
Here it is said without keys when two values are one key: each value has a class, which for a number
is the rational number that it is, so that `1`, `1.0` and `true` share one, and for a tuple the
classes of its items. On the values that have a class `Key.same` is equality of the classes,
`same_iff`, and the other values of interest are exactly those that are refused, `ofValue_error`.

Infinities, what is no number, and things of which only a text is known have no class. They are keys
all the same.
-/

namespace QueryGateway

/-- What the values that are one key have in common. -/
inductive Class where
  | null
  | number (q : ℚ)
  | text (t : Text)
  | bytes (b : Bytes)
  | tuple (items : List Class)

noncomputable instance : DecidableEq Class := Classical.decEq Class

mutual

/-- The value has the class. -/
inductive Value.HasClass : Value → Class → Prop
  | null : HasClass .null .null
  | bool (b : Bool) : HasClass (.bool b) (.number (if b then 1 else 0))
  | int (n : Int) : HasClass (.int n) (.number n)
  | real {x : Binary64} : x.Proper → HasClass (.real x) (.number x.toRat)
  | text (t : Text) : HasClass (.text t) (.text t)
  | bytes (b : Bytes) : HasClass (.bytes b) (.bytes b)
  | tuple {items : List Value} {classes : List Class} :
      HaveClasses items classes → HasClass (.tuple items) (.tuple classes)

/-- The values have the classes, one by one. -/
inductive Value.HaveClasses : List Value → List Class → Prop
  | nil : HaveClasses [] []
  | cons {v : Value} {d : Class} {vs : List Value} {ds : List Class} :
      HasClass v d → HaveClasses vs ds → HaveClasses (v :: vs) (d :: ds)

end

mutual

/-- The kind of the first part of a value that can change, and therefore can be no key. -/
def Value.changing? : Value → Option Text
  | .list items => some (Value.list items).kindName
  | .set items => some (Value.set items).kindName
  | .map members => some (Value.map members).kindName
  | .endless isMap => some (Value.endless isMap).kindName
  | .tuple items => anyChanging? items
  | _ => none

/-- The kind of the first part of some values that can change. -/
def Value.anyChanging? : List Value → Option Text
  | [] => none
  | v :: rest => (changing? v).or (anyChanging? rest)

end

/-- The value has a class, or it is refused as a key. -/
def Value.Settled (v : Value) : Prop := (∃ d, v.HasClass d) ∨ ∃ kind, v.changing? = some kind

namespace Key

/-! ## Keys that are the same -/

mutual

theorem same_iff_eq {k l : Key} : same k l = true ↔ k = l := by
  cases k <;> cases l <;> simp only [same, decide_eq_true_eq, Bool.false_eq_true, reduceCtorEq,
    int.injEq, real.injEq, text.injEq, bytes.injEq, tuple.injEq, thing.injEq]
  case tuple.tuple ks ls => exact sameAll_iff_eq

theorem sameAll_iff_eq {ks ls : List Key} : sameAll ks ls = true ↔ ks = ls := by
  cases ks <;> cases ls <;> simp only [sameAll, Bool.and_eq_true, Bool.false_eq_true, reduceCtorEq,
    List.cons.injEq]
  case cons.cons => rw [same_iff_eq, sameAll_iff_eq]

end

instance : DecidableEq Key := fun _ _ => decidable_of_iff _ same_iff_eq

/-! ## The classes of keys -/

mutual

/-- The key is the one of the values of a class. -/
inductive Of : Key → Class → Prop
  | null : Of .null .null
  | int (n : Int) : Of (.int n) (.number n)
  | real {x : Binary64} : x.Proper → x.toInt? = none → Of (.real x) (.number x.toRat)
  | text (t : Text) : Of (.text t) (.text t)
  | bytes (b : Bytes) : Of (.bytes b) (.bytes b)
  | tuple {keys : List Key} {classes : List Class} :
      AllOf keys classes → Of (.tuple keys) (.tuple classes)

/-- The keys are those of the values of some classes, one by one. -/
inductive AllOf : List Key → List Class → Prop
  | nil : AllOf [] []
  | cons {k : Key} {d : Class} {ks : List Key} {ds : List Class} :
      Of k d → AllOf ks ds → AllOf (k :: ks) (d :: ds)

end

/-- A floating point number that is an integer has the key of the integer. -/
theorem ofReal_of {x : Binary64} (proper : x.Proper) : Of (ofReal x) (.number x.toRat) := by
  match x, proper with
  | .finite negative m e, proper =>
  rw [ofReal]
  split
  case h_1 n whole =>
      rw [(Binary64.toInt?_eq_some rfl).mp whole]
      exact .int n
  case h_2 broken => exact .real proper broken

mutual

theorem ofValue_of {v : Value} {d : Class} : v.HasClass d → ∃ k, ofValue v = .ok k ∧ Of k d
  | .null => ⟨_, rfl, .null⟩
  | .bool true => ⟨_, rfl, .int 1⟩
  | .bool false => ⟨_, rfl, .int 0⟩
  | .int n => ⟨_, rfl, .int n⟩
  | .real proper => ⟨_, rfl, ofReal_of proper⟩
  | .text t => ⟨_, rfl, .text t⟩
  | .bytes b => ⟨_, rfl, .bytes b⟩
  | .tuple h =>
      let ⟨ks, hks, of⟩ := ofValues_of h
      ⟨.tuple ks, by rw [ofValue, hks], .tuple of⟩

theorem ofValues_of {vs : List Value} {ds : List Class} :
    Value.HaveClasses vs ds → ∃ ks, ofValues vs = .ok ks ∧ AllOf ks ds
  | .nil => ⟨[], rfl, .nil⟩
  | .cons h rest =>
      let ⟨k, hk, of⟩ := ofValue_of h
      let ⟨ks, hks, all⟩ := ofValues_of rest
      ⟨k :: ks, by rw [ofValues, hk, hks], .cons of all⟩

end

mutual

/-- On keys of values that have a class, `same` is equality of the classes. -/
theorem same_iff {k l : Key} {d e : Class} (hk : Of k d) (hl : Of l e) :
    same k l = true ↔ d = e := by
  cases hk <;> cases hl
  case int.real m x proper broken =>
    exact iff_of_false nofun fun eq => Binary64.toRat_ne_int proper broken m (Class.number.inj eq).symm
  case real.int x proper broken m =>
    exact iff_of_false nofun fun eq => Binary64.toRat_ne_int proper broken m (Class.number.inj eq)
  case real.real x proper broken y proper' _ =>
    have nonzero : x.toRat ≠ 0 := by simpa using Binary64.toRat_ne_int proper broken 0
    rw [same, decide_eq_true_eq, Class.number.injEq]
    exact ⟨congrArg _, Binary64.toRat_injective proper proper' nonzero⟩
  case tuple.tuple ks ds hks ls es hls =>
    rw [same, sameAll_iff hks hls, Class.tuple.injEq]
  all_goals simp [same]

theorem sameAll_iff {ks ls : List Key} {ds es : List Class} (hks : AllOf ks ds) (hls : AllOf ls es) :
    sameAll ks ls = true ↔ ds = es := by
  cases hks <;> cases hls
  case cons.cons k d ks ds hk hks l e ls es hl hls =>
    rw [sameAll, Bool.and_eq_true, same_iff hk hl, sameAll_iff hks hls, List.cons.injEq]
  all_goals simp [sameAll]

end

mutual

/-- A value is refused as a key for the first part that can change. -/
theorem ofValue_error {v : Value} {kind : Text} :
    ofValue v = .error kind ↔ v.changing? = some kind := by
  cases v with
  | tuple items =>
      rw [ofValue, Value.changing?, ← ofValues_error]
      cases ofValues items <;> simp
  | _ => simp [ofValue, Value.changing?]

theorem ofValues_error {vs : List Value} {kind : Text} :
    ofValues vs = .error kind ↔ Value.anyChanging? vs = some kind := by
  cases vs with
  | nil => simp [ofValues, Value.anyChanging?]
  | cons v rest =>
      rw [ofValues, Value.anyChanging?]
      cases head : ofValue v with
      | error first => simp [ofValue_error.mp head]
      | ok key =>
          have fixed : v.changing? = none := Option.eq_none_iff_forall_ne_some.mpr fun first eq =>
            nomatch head.symm.trans (ofValue_error.mpr eq)
          rw [fixed, Option.none_or, ← ofValues_error]
          cases ofValues rest <;> simp

end

end Key

namespace Value

/-- A value has at most one class. -/
theorem HasClass.unique {v : Value} {d e : Class} (hd : v.HasClass d) (he : v.HasClass e) :
    d = e := by
  obtain ⟨k, hk, ofD⟩ := Key.ofValue_of hd
  obtain ⟨l, hl, ofE⟩ := Key.ofValue_of he
  obtain rfl : k = l := Except.ok.inj (hk.symm.trans hl)
  exact (Key.same_iff ofD ofE).mp ((Key.same_iff ofD ofD).mpr rfl)

theorem HasClass.iff {v : Value} {d e : Class} (h : v.HasClass d) : v.HasClass e ↔ e = d :=
  ⟨fun h' => h'.unique h, fun eq => eq ▸ h⟩

/-- No part of a value with a class can change. -/
theorem HasClass.changing? {v : Value} {d : Class} (h : v.HasClass d) : v.changing? = none := by
  obtain ⟨k, hk, -⟩ := Key.ofValue_of h
  exact Option.eq_none_iff_forall_ne_some.mpr fun kind eq =>
    nomatch hk.symm.trans (Key.ofValue_error.mpr eq)

end Value

end QueryGateway
