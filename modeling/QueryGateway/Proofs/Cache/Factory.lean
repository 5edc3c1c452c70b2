import QueryGateway.Proofs.Cache.Refinement

/-!
# Factories that use the cache themselves

A factory runs between the lookup and the store, and may meanwhile do to the very cache whatever can
be done to a cache, run factories included. `Does` says what a use comes to, nested as deep as it
may be, on what a cache tells of itself (`Content`): what is under each key, and how many entries there
are. A missing value is made by one run of its factory, which starts from what was there, and what the
factory leaves gets the key bound, whatever the factory itself has bound it to.

`use_does` is the induction over nested factories: a cache does what `Does` says, and nothing else
(`does_iff`). `getOrMake_exact` adds what a content does not tell, the cache itself, and speaks of any
factory, whether it is written down as uses or not.

Any value is a key here that is not refused as one, what is no number and mere things included.
-/

namespace QueryGateway

namespace Cache

variable {c : Cache} {k l : Key} {v : Value}

/-! ## What a cache tells of itself -/

/-- What is under each key, and how many entries there are. -/
@[ext]
structure Content where
  find : Key → Option Value
  size : Nat

namespace Content

/-- Nothing under any key. -/
def nothing : Content := ⟨fun _ => none, 0⟩

/-- The content with a key bound to a value. -/
def bind (m : Content) (k : Key) (v : Value) : Content where
  find l := if k = l then some v else m.find l
  size := if (m.find k).isSome then m.size else m.size + 1

end Content

def content (c : Cache) : Content := ⟨c.get?, c.size⟩

theorem get?_entry (e : Key) (w : Value) (rest : List (Key × Value)) (l : Key) :
    get? ⟨(e, w) :: rest⟩ l = if e = l then some w else get? ⟨rest⟩ l := by
  rw [get?, List.find?_cons, ← if_congr (Key.same_iff_eq (k := e) (l := l)) rfl rfl]
  cases e.same l <;> rfl

theorem insertInto_entry (k : Key) (v : Value) (e : Key) (w : Value) (rest : List (Key × Value)) :
    insertInto k v ((e, w) :: rest) =
      if e = k then (e, v) :: rest else (e, w) :: insertInto k v rest := by
  rw [insertInto]
  exact if_congr Key.same_iff_eq rfl rfl

theorem find_insertInto (entries : List (Key × Value)) (k : Key) (v : Value) (l : Key) :
    get? ⟨insertInto k v entries⟩ l = if k = l then some v else get? ⟨entries⟩ l := by
  induction entries with
  | nil => exact get?_entry k v [] l
  | cons entry rest ih =>
      obtain ⟨e, w⟩ := entry
      rw [insertInto_entry, get?_entry]
      by_cases place : e = k
      · subst place
        rw [if_pos rfl, get?_entry]
        split <;> rfl
      · rw [if_neg place, get?_entry, ih]
        by_cases here : e = l
        · rw [if_pos here, if_pos here, if_neg fun same => place (here.trans same.symm)]
        · rw [if_neg here, if_neg here]

theorem length_insertInto (entries : List (Key × Value)) (k : Key) (v : Value) :
    (insertInto k v entries).length =
      if (get? ⟨entries⟩ k).isSome then entries.length else entries.length + 1 := by
  induction entries with
  | nil => rfl
  | cons entry rest ih =>
      obtain ⟨e, w⟩ := entry
      rw [insertInto_entry, get?_entry]
      split
      · rfl
      · rw [List.length_cons, ih, List.length_cons]
        split <;> rfl

theorem content_insert (c : Cache) (k : Key) (v : Value) :
    (c.insert k v).content = c.content.bind k v := by
  ext1
  · exact funext (find_insertInto c.entries k v)
  · exact length_insertInto c.entries k v

/-! ## What a use comes to -/

mutual

/-- One use on a content: what it answers, the records it leaves and the content after it. -/
inductive Does : Content → Use → Answer → List Log.Record → Content → Prop
  | get {m : Content} {key : Value} {k : Key} (default : Value) : Key.ofValue key = .ok k →
      Does m (.get key default) (.value ((m.find k).getD default)) [] m
  | set {m : Content} {key : Value} {k : Key} (v : Value) : Key.ofValue key = .ok k →
      Does m (.set key v) (.value .null) [] (m.bind k v)
  | contains {m : Content} {key : Value} {k : Key} : Key.ofValue key = .ok k →
      Does m (.contains key) (.value (.bool (m.find k).isSome)) [] m
  | size {m : Content} : Does m .size (.value (.int m.size)) [] m
  | nonempty {m : Content} : Does m .nonempty (.value (.bool (decide (0 < m.size)))) [] m
  | evict {m : Content} : 0 < m.size →
      Does m .evict (.value .null) [evictedRecord m.size] .nothing
  | evictNothing {m : Content} : m.size = 0 → Does m .evict (.value .null) [] m
  | found {m : Content} {key v : Value} {k : Key} (first : List Use)
      (outcome : Except Failure Value) : Key.ofValue key = .ok k → m.find k = some v →
      Does m (.getOrMake key first outcome) (.made false (.ok v)) [] m
  | made {m left : Content} {key : Value} {k : Key} {first : List Use} {logs : List Log.Record}
      (v : Value) : Key.ofValue key = .ok k → m.find k = none → DoesAll m first logs left →
      Does m (.getOrMake key first (.ok v)) (.made true (.ok v)) logs (left.bind k v)
  | raised {m left : Content} {key : Value} {k : Key} {first : List Use} {logs : List Log.Record}
      (f : Failure) : Key.ofValue key = .ok k → m.find k = none → DoesAll m first logs left →
      Does m (.getOrMake key first (.error f)) (.made true (.error f)) logs left
  | refused {m : Content} {u : Use} {key : Value} {kind : Text} : u.key? = some key →
      key.changing? = some kind → Does m u (u.refusal (.unhashable kind)) [] m

/-- Several uses on a content, one after the other. -/
inductive DoesAll : Content → List Use → List Log.Record → Content → Prop
  | nil {m : Content} : DoesAll m [] [] m
  | cons {m between left : Content} {u : Use} {rest : List Use} {a : Answer}
      {logs more : List Log.Record} : Does m u a logs between → DoesAll between rest more left →
      DoesAll m (u :: rest) (logs ++ more) left

end

/-- A value is a key or is refused as one. -/
theorem ofValue_total (key : Value) :
    (∃ k, Key.ofValue key = .ok k) ∨ ∃ kind, key.changing? = some kind := by
  cases read : Key.ofValue key with
  | ok k => exact .inl ⟨k, rfl⟩
  | error kind => exact .inr ⟨kind, Key.ofValue_error.mp read⟩

/-! ## A factory is run once if the value is missing, and else not at all -/

section Factories
variable {key : Value} {first : List Use} {outcome : Except Failure Value} {left : Cache}
  {f : Failure}

theorem getOrMake_refused {kind : Text} (changing : key.changing? = some kind) (make : Factory) :
    c.getOrMake key make = (false, .error (.unhashable kind), c) := by
  rw [getOrMake, Key.ofValue_error.mpr changing]

theorem getOrMake_found (read : Key.ofValue key = .ok k) (found : c.get? k = some v)
    (make : Factory) : c.getOrMake key make = (false, .ok v, c) := by
  simp only [getOrMake, read, found]

theorem getOrMake_made (read : Key.ofValue key = .ok k) (missing : c.get? k = none)
    {make : Factory} (made : make c = (.ok v, left)) :
    c.getOrMake key make = (true, .ok v, left.insert k v) := by
  simp only [getOrMake, read, missing, made]

theorem getOrMake_raised (read : Key.ofValue key = .ok k) (missing : c.get? k = none)
    {make : Factory} (raised : make c = (.error f, left)) :
    c.getOrMake key make = (true, .error f, left) := by
  simp only [getOrMake, read, missing, raised]

/-- The factory that uses the cache some times and then ends. -/
def factory (first : List Use) (outcome : Except Failure Value) : Factory :=
  fun c => (outcome, (c.useAll first).1)

theorem use_getOrMake (c : Cache) (key : Value) (first : List Use)
    (outcome : Except Failure Value) :
    let x := c.getOrMake key (factory first outcome)
    c.use (.getOrMake key first outcome) =
      (.made x.1 x.2.1, x.2.2, if x.1 then (c.useAll first).2 else []) := rfl

theorem use_found (read : Key.ofValue key = .ok k) (found : c.get? k = some v) :
    c.use (.getOrMake key first outcome) = (.made false (.ok v), c, []) := by
  rw [use_getOrMake, getOrMake_found read found]
  rfl

theorem use_made (read : Key.ofValue key = .ok k) (missing : c.get? k = none) :
    c.use (.getOrMake key first (.ok v)) =
      (.made true (.ok v), (c.useAll first).1.insert k v, (c.useAll first).2) := by
  have made : factory first (.ok v) c = (.ok v, (c.useAll first).1) := rfl
  rw [use_getOrMake, getOrMake_made read missing made]
  rfl

theorem use_raised (read : Key.ofValue key = .ok k) (missing : c.get? k = none) :
    c.use (.getOrMake key first (.error f)) =
      (.made true (.error f), (c.useAll first).1, (c.useAll first).2) := by
  have raised : factory first (.error f) c = (.error f, (c.useAll first).1) := rfl
  rw [use_getOrMake, getOrMake_raised read missing raised]
  rfl

end Factories

/-! ## A cache does what its content does -/

mutual

/-- The induction over nested factories: what a use does to a cache, it does to the content. -/
theorem use_does (c : Cache) (u : Use) :
    Does c.content u (c.use u).1 (c.use u).2.2 (c.use u).2.1.content := by
  match u with
  | .get key default =>
      rcases ofValue_total key with ⟨k, read⟩ | ⟨kind, changing⟩
      · simp only [use, lookup, read, Answer.ofExcept]
        exact .get default read
      · rw [use_refused rfl changing]
        exact .refused rfl changing
  | .set key v =>
      rcases ofValue_total key with ⟨k, read⟩ | ⟨kind, changing⟩
      · simp only [use, store, read, content_insert]
        exact .set v read
      · rw [use_refused rfl changing]
        exact .refused rfl changing
  | .contains key =>
      rcases ofValue_total key with ⟨k, read⟩ | ⟨kind, changing⟩
      · simp only [use, has, read, contains_eq, Except.map, Answer.ofExcept]
        exact .contains read
      · rw [use_refused rfl changing]
        exact .refused rfl changing
  | .size => exact .size
  | .nonempty => exact .nonempty
  | .evict =>
      rw [use, evict]
      cases filled : c.nonempty with
      | true => exact .evict (of_decide_eq_true filled)
      | false => exact .evictNothing (Nat.eq_zero_of_not_pos (of_decide_eq_false filled))
  | .getOrMake key first outcome =>
      rcases ofValue_total key with ⟨k, read⟩ | ⟨kind, changing⟩
      · cases present : c.get? k with
        | some v =>
            rw [use_found read present]
            exact .found first outcome read present
        | none =>
            cases outcome with
            | ok v =>
                rw [use_made read present, content_insert]
                exact .made v read present (useAll_does c first)
            | error f =>
                rw [use_raised read present]
                exact .raised f read present (useAll_does c first)
      · rw [use_refused rfl changing]
        exact .refused rfl changing

theorem useAll_does (c : Cache) (uses : List Use) :
    DoesAll c.content uses (c.useAll uses).2 (c.useAll uses).1.content := by
  match uses with
  | [] => exact .nil
  | u :: rest => exact .cons (use_does c u) (useAll_does (c.use u).2.1 rest)

end

/-- What can be read as a key is not refused. -/
theorem unrefused {u : Use} {key key' : Value} {kind : Text} (keyed : u.key? = some key)
    (keyed' : u.key? = some key') (read : Key.ofValue key' = .ok k) :
    key.changing? ≠ some kind := by
  intro changing
  cases keyed.symm.trans keyed'
  cases read.symm.trans (Key.ofValue_error.mpr changing)

mutual

/-- What a use comes to is settled by the content. -/
theorem Does.unique {m m' : Content} {u : Use} {a : Answer} {logs : List Log.Record}
    (h : Does m u a logs m') {a' : Answer} {logs' : List Log.Record} {m'' : Content}
    (h' : Does m u a' logs' m'') : a = a' ∧ logs = logs' ∧ m' = m'' := by
  match h with
  | .made v read missing tail =>
      cases h' with
      | made _ read' _ tail' =>
          obtain ⟨rfl, rfl⟩ := tail.unique tail'
          cases read.symm.trans read'
          exact ⟨rfl, rfl, rfl⟩
      | found _ _ read' found =>
          cases read.symm.trans read'
          cases missing.symm.trans found
      | refused keyed changing => exact absurd changing (unrefused keyed rfl read)
  | .raised f read missing tail =>
      cases h' with
      | raised _ read' _ tail' =>
          obtain ⟨rfl, rfl⟩ := tail.unique tail'
          exact ⟨rfl, rfl, rfl⟩
      | found _ _ read' found =>
          cases read.symm.trans read'
          cases missing.symm.trans found
      | refused keyed changing => exact absurd changing (unrefused keyed rfl read)
  | .found first outcome read found =>
      cases h' <;> grind [unrefused, Use.key?]
  | .get .. | .set .. | .contains .. | .size | .nonempty | .evict .. | .evictNothing .. =>
      cases h' <;> grind [unrefused, Use.key?]
  | .refused keyed changing =>
      cases h' <;> grind [unrefused, Use.key?]

theorem DoesAll.unique {m m' : Content} {uses : List Use} {logs : List Log.Record}
    (h : DoesAll m uses logs m') {logs' : List Log.Record} {m'' : Content}
    (h' : DoesAll m uses logs' m'') : logs = logs' ∧ m' = m'' := by
  match h with
  | .nil =>
      cases h'
      exact ⟨rfl, rfl⟩
  | .cons head tail =>
      cases h' with
      | cons head' tail' =>
          obtain ⟨-, same, between⟩ := head.unique head'
          subst between
          obtain ⟨more, left⟩ := tail.unique tail'
          rw [same, more]
          exact ⟨rfl, left⟩

end

/-- A cache does what its content does, and nothing else. -/
theorem does_iff {u : Use} {a : Answer} {logs : List Log.Record} {m : Content} :
    Does c.content u a logs m ↔
      a = (c.use u).1 ∧ logs = (c.use u).2.2 ∧ m = (c.use u).2.1.content := by
  constructor
  · intro h
    exact h.unique (use_does c u)
  · rintro ⟨rfl, rfl, rfl⟩
    exact use_does c u

/-! ## Making what is missing is exact -/

/-- What comes of a value that is made if it is missing: whether the factory was run, the outcome and
the cache afterwards. -/
structure Exact (c : Cache) (key : Value) (make : Factory) (ran : Bool)
    (outcome : Except Failure Value) (after : Cache) : Prop where
  /-- What can be no key is refused. -/
  refused {kind : Text} : key.changing? = some kind →
    ran = false ∧ outcome = .error (.unhashable kind) ∧ after = c
  /-- What is there is given out, even a null. -/
  found {k : Key} {v : Value} : Key.ofValue key = .ok k → c.get? k = some v →
    ran = false ∧ outcome = .ok v ∧ after = c
  /-- What is missing is made, and bound in what the factory left. -/
  made {k : Key} {v : Value} {left : Cache} : Key.ofValue key = .ok k → c.get? k = none →
    make c = (.ok v, left) →
    ran = true ∧ outcome = .ok v ∧ after = left.insert k v ∧
      after.content = left.content.bind k v
  /-- What cannot be made leaves what the factory left. -/
  raised {k : Key} {f : Failure} {left : Cache} : Key.ofValue key = .ok k → c.get? k = none →
    make c = (.error f, left) → ran = true ∧ outcome = .error f ∧ after = left

theorem exact_getOrMake (c : Cache) (key : Value) (make : Factory) :
    let x := c.getOrMake key make
    Exact c key make x.1 x.2.1 x.2.2 := by
  refine ⟨fun changing => ?_, fun read found => ?_, fun read missing made => ?_,
    fun read missing raised => ?_⟩
  · rw [getOrMake_refused changing make]
    exact ⟨rfl, rfl, rfl⟩
  · rw [getOrMake_found read found make]
    exact ⟨rfl, rfl, rfl⟩
  · rw [getOrMake_made read missing made]
    exact ⟨rfl, rfl, rfl, content_insert _ _ _⟩
  · rw [getOrMake_raised read missing raised]
    exact ⟨rfl, rfl, rfl⟩

/-- Whatever a factory does to the cache, and however it ends, making what is missing is exact. If the
factory uses the cache, nested to any depth, then it is run on the cache as it was found, its
records are left once if it is run, and the whole is what its content makes of it. -/
theorem getOrMake_exact (c : Cache) (key : Value) :
    (∀ make : Factory,
      let x := c.getOrMake key make
      Exact c key make x.1 x.2.1 x.2.2) ∧
    ∀ (first : List Use) (outcome : Except Failure Value),
      let x := c.use (.getOrMake key first outcome)
      (∃ ran result, x.1 = .made ran result ∧
        Exact c key (factory first outcome) ran result x.2.1 ∧
        x.2.2 = if ran then (c.useAll first).2 else []) ∧
      ∀ a logs m, Does c.content (.getOrMake key first outcome) a logs m ↔
        a = x.1 ∧ logs = x.2.2 ∧ m = x.2.1.content := by
  refine ⟨exact_getOrMake c key, fun first outcome => ⟨?_, fun a logs m => does_iff⟩⟩
  rw [use_getOrMake]
  exact ⟨_, _, rfl, exact_getOrMake c key (factory first outcome), rfl⟩

/-- The value that was made takes the place of what its factory bound to the key, even a null. -/
example :
    let first : List Use := [.set (.text "a") (.int 1), .evict,
      .getOrMake (.text "a") [.set (.text "a") (.int 2), .set (.text "b") .null] (.ok (.int 3))]
    let x := empty.use (.getOrMake (.text "a") first (.ok .null))
    x.1 = .made true (.ok .null) ∧ x.2.2 = [evictedRecord 1] ∧
      x.2.1.entries = [(.text "a", .null), (.text "b", .null)] :=
  ⟨rfl, rfl, rfl⟩

/-- What is no number is found by whoever holds it, also inside a tuple; another one is not. -/
example :
    let filed := (empty.use (.set (.tuple [.real (.nan 1)]) (.int 7))).2.1
    (filed.use (.getOrMake (.tuple [.real (.nan 1)]) [] (.ok .null))).1 =
        .made false (.ok (.int 7)) ∧
      (filed.use (.getOrMake (.tuple [.real (.nan 2)]) [] (.ok .null))).1 =
        .made true (.ok .null) :=
  ⟨rfl, rfl⟩

end Cache

end QueryGateway
