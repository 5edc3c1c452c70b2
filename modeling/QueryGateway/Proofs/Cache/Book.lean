import Mathlib.Data.Finmap
import QueryGateway.Cache.Basic
import QueryGateway.Proofs.Value.Key

/-!
# The book that a cache keeps

What a cache is to its users, said without its entries and its comparison of keys: a finite map from
the classes of keys to values. `Book.Step` lists all that a use may do to the map and answer, and
leaves no choice (`Book.Step.deterministic`). The rest is the history of a map that was empty at
first: its keys are the classes that were written since everything was evicted last
(`Book.Reached.mem_iff`).

What is NOT said: anything of a factory that itself uses the cache.
-/

namespace QueryGateway

/-- A finite map from classes of keys to values. -/
abbrev Book := Finmap fun _ : Class => Value

namespace Cache

/-! ## Uses and what comes of them -/

/-- The key of a use, if it has one. -/
def Use.key? : Use → Option Value
  | .get key _ | .set key _ | .contains key | .getOrMake key .. => some key
  | .size | .nonempty | .evict => none

/-- The answer of a use that fails before anything else happens. -/
def Use.refusal (f : Failure) : Use → Answer
  | .getOrMake .. => .made false (.error f)
  | _ => .failed f

/-- One use with the cache before it and all that came of it. -/
structure Exchange where
  before : Cache
  use : Use
  answer : Answer
  logs : List Log.Record
  after : Cache

def exchange (c : Cache) (u : Use) : Exchange := ⟨c, u, (c.use u).1, (c.use u).2.2, (c.use u).2.1⟩

/-- The exchanges of several uses, one after the other. -/
def transcript (c : Cache) : List Use → List Exchange
  | [] => []
  | u :: rest => c.exchange u :: transcript (c.exchange u).after rest

namespace Exchange

/-- A factory was run for a key of the class and gave a value. -/
def Makes (x : Exchange) (d : Class) : Prop :=
  ∃ key first v, x.use = .getOrMake key first (.ok v) ∧ key.HasClass d ∧ x.answer = .made true (.ok v)

/-- A value was bound to a key of the class. -/
def Writes (x : Exchange) (d : Class) : Prop :=
  (∃ key v, x.use = .set key v ∧ key.HasClass d) ∨ x.Makes d

theorem Writes.keyed {x : Exchange} {d : Class} (h : x.Writes d) :
    ∃ key, x.use.key? = some key ∧ key.HasClass d := by
  rcases h with ⟨key, v, set, classed⟩ | ⟨key, first, v, make, classed, -⟩
  · exact ⟨key, by rw [set, Use.key?], classed⟩
  · exact ⟨key, by rw [make, Use.key?], classed⟩

end Exchange

/-- The class was written and nothing was evicted since. -/
def Written (past : List Exchange) (d : Class) : Prop :=
  ∃ earlier x later, past = earlier ++ x :: later ∧ x.Writes d ∧ ∀ y ∈ later, y.use ≠ .evict

theorem written_concat {past : List Exchange} {x : Exchange} {d : Class} :
    Written (past ++ [x]) d ↔ x.Writes d ∨ x.use ≠ .evict ∧ Written past d := by
  constructor
  · rintro ⟨earlier, y, later, eq, writes, kept⟩
    rcases List.eq_nil_or_concat' later with rfl | ⟨later, z, rfl⟩
    · obtain ⟨rfl, rfl⟩ := List.append_singleton_inj.mp eq
      exact .inl writes
    · rw [← List.cons_append, ← List.append_assoc] at eq
      obtain ⟨rfl, rfl⟩ := List.append_singleton_inj.mp eq
      rw [List.forall_mem_append, List.forall_mem_singleton] at kept
      exact .inr ⟨kept.2, earlier, y, later, rfl, writes, kept.1⟩
  · rintro (writes | ⟨kept, earlier, y, later, rfl, writes, kept'⟩)
    · exact ⟨past, x, [], rfl, writes, List.forall_mem_nil _⟩
    · refine ⟨earlier, y, later ++ [x], by simp, writes, ?_⟩
      rw [List.forall_mem_append, List.forall_mem_singleton]
      exact ⟨kept', kept⟩

end Cache

namespace Book

open Cache (Use Answer Exchange Written evictedRecord)

theorem keys_eq_empty {b : Book} : b.keys = ∅ ↔ b = ∅ := by
  constructor
  · intro bare
    refine Finmap.ext_lookup fun d => ?_
    rw [Finmap.lookup_empty, Finmap.lookup_eq_none, ← Finmap.mem_keys, bare]
    exact Finset.notMem_empty d
  · rintro rfl
    exact Finmap.keys_empty

/-! ## What a use does to the book -/

/-- One use of a book: what it answers, the records it leaves and the book after it. -/
inductive Step (b : Book) : Use → Answer → List Log.Record → Book → Prop
  | get {key : Value} {d : Class} (default : Value) : key.HasClass d →
      Step b (.get key default) (.value ((b.lookup d).getD default)) [] b
  | set {key : Value} {d : Class} (v : Value) : key.HasClass d →
      Step b (.set key v) (.value .null) [] (b.insert d v)
  | contains {key : Value} {d : Class} : key.HasClass d →
      Step b (.contains key) (.value (.bool (decide (d ∈ b)))) [] b
  | size : Step b .size (.value (.int b.keys.card)) [] b
  | nonempty : Step b .nonempty (.value (.bool (decide (0 < b.keys.card)))) [] b
  | evict : b ≠ ∅ → Step b .evict (.value .null) [evictedRecord b.keys.card] ∅
  | evictNothing : b = ∅ → Step b .evict (.value .null) [] b
  | found {key v : Value} {d : Class} (outcome : Except Failure Value) : key.HasClass d →
      b.lookup d = some v → Step b (.getOrMake key [] outcome) (.made false (.ok v)) [] b
  | made {key : Value} {d : Class} (v : Value) : key.HasClass d → b.lookup d = none →
      Step b (.getOrMake key [] (.ok v)) (.made true (.ok v)) [] (b.insert d v)
  | raised {key : Value} {d : Class} (f : Failure) : key.HasClass d → b.lookup d = none →
      Step b (.getOrMake key [] (.error f)) (.made true (.error f)) [] b
  | refused {u : Use} {key : Value} {kind : Text} : u.key? = some key → key.changing? = some kind →
      Step b u (u.refusal (.unhashable kind)) [] b

/-- What a use answers, records and leaves is settled by the book. -/
theorem Step.deterministic {b b' b'' : Book} {u : Use} {a a' : Answer} {logs logs' : List Log.Record}
    (h : b.Step u a logs b') (h' : b.Step u a' logs' b'') : a = a' ∧ logs = logs' ∧ b' = b'' := by
  -- a key has one class and is not refused with it, and a lookup settles whether a factory is run
  cases h <;> cases h' <;>
    grind [Value.HasClass.unique, Value.HasClass.changing?, Use.key?]

/-! ## The book after a history -/

/-- The book is what a history leaves that starts with an empty one. -/
inductive Reached : Book → List Exchange → Prop
  | start : Reached ∅ []
  | step {past : List Exchange} {b b' : Book} {x : Exchange} :
      Reached b past → b.Step x.use x.answer x.logs b' → Reached b' (past ++ [x])

/-- A use other than an eviction keeps what is there and adds what it writes. -/
theorem Step.mem_iff {b b' : Book} {x : Exchange} (h : b.Step x.use x.answer x.logs b')
    (kept : x.use ≠ .evict) (d : Class) : d ∈ b' ↔ x.Writes d ∨ d ∈ b := by
  generalize used : x.use = u at h kept
  generalize answered : x.answer = a at h
  generalize x.logs = logs at h
  cases h with
  | set v classed => simp [Exchange.Writes, Exchange.Makes, used, classed.iff]
  | made v classed => simp [Exchange.Writes, Exchange.Makes, used, answered, classed.iff]
  | evict | evictNothing => exact absurd rfl kept
  | refused keyed changing =>
      refine (or_iff_right fun writes => ?_).symm
      obtain ⟨key, keyed', classed⟩ := writes.keyed
      rw [used, keyed] at keyed'
      cases keyed'
      cases classed.changing?.symm.trans changing
  | _ => simp [Exchange.Writes, Exchange.Makes, used, answered]

/-- A factory is only run for a key that is missing. -/
theorem Step.missing {b b' : Book} {key : Value} {d : Class} {first : List Use}
    {outcome o : Except Failure Value} {logs : List Log.Record}
    (h : b.Step (.getOrMake key first outcome) (.made true o) logs b') (classed : key.HasClass d) :
    d ∉ b := by
  cases h with
  | made _ classed' missing | raised _ classed' missing =>
      rw [classed.unique classed']
      exact Finmap.lookup_eq_none.mp missing

theorem Step.evicted {b b' : Book} {a : Answer} {logs : List Log.Record}
    (h : b.Step .evict a logs b') : b' = ∅ := by
  cases h with
  | evict => rfl
  | evictNothing nothing => exact nothing
  | refused key => cases key

/-- The keys of the book are the classes that were written since everything was evicted last. -/
theorem Reached.mem_iff {past : List Exchange} {b : Book} (h : b.Reached past) (d : Class) :
    d ∈ b ↔ Written past d := by
  induction h with
  | start => exact iff_of_false Finmap.notMem_empty fun ⟨_, _, _, eq, _⟩ => by simp at eq
  | @step past b b' x _ step ih =>
      rw [Cache.written_concat, ← ih]
      by_cases evict : x.use = .evict
      · have nothing : b' = ∅ := (evict ▸ step).evicted
        simp [nothing, evict, Exchange.Writes, Exchange.Makes, Finmap.notMem_empty]
      · simp [step.mem_iff evict, evict]

end Book

end QueryGateway
