import QueryGateway.Proofs.Cache.Book

/-!
# A cache keeps its book

The entries of a cache are a list of keys and values that is searched with `Key.same`. Here they are
tied to the book of `Proofs.Cache.Book`: `Keeps` holds of the empty cache, every use preserves it and
answers what the book gives (`Keeps.step`), and so does a whole run (`Keeps.at_split`). What a run tells
of its uses is then read off the book and its history, in `transcript_follows_book`.

The uses are plain: their keys have a class or are refused, and their factories leave the cache
alone.
-/

namespace QueryGateway.Cache

variable {c : Cache} {b : Book} {k l : Key} {d e : Class} {v : Value}

/-! ## The entries -/

section Entries

variable {entries : List (Key × Value)} {classes : List Class}

/-- The keys of some entries are those of some classes, one by one. -/
abbrev Filed (entries : List (Key × Value)) (classes : List Class) : Prop :=
  List.Forall₂ (fun entry d => entry.1.Of d) entries classes

theorem insertInto_cons (hk : k.Of d) (hl : l.Of e) (v w : Value) (rest : List (Key × Value)) :
    insertInto k v ((l, w) :: rest) =
      if e = d then (l, v) :: rest else (l, w) :: insertInto k v rest := by
  rw [insertInto]
  exact if_congr (Key.same_iff hl hk) rfl rfl

theorem get?_cons (hk : k.Of d) (hl : l.Of e) (v : Value) (rest : List (Key × Value)) :
    get? ⟨(k, v) :: rest⟩ l = if d = e then some v else get? ⟨rest⟩ l := by
  have decided := Key.same_iff hk hl
  split
  case isTrue same => rw [get?, List.find?_cons_of_pos (by exact decided.mpr same), Option.map_some]
  case isFalse other => rw [get?, List.find?_cons_of_neg (by exact mt decided.mp other), get?]

/-- A new value goes into the place of its class, or behind all if the class has none. -/
theorem filed_insertInto (filed : Filed entries classes) (hk : k.Of d) (v : Value) :
    Filed (insertInto k v entries) (if d ∈ classes then classes else classes ++ [d]) := by
  induction filed with
  | nil => exact .cons hk .nil
  | @cons entry f rest ds head tail ih =>
      rw [insertInto_cons hk head]
      by_cases same : f = d
      · subst same
        rw [if_pos rfl, if_pos List.mem_cons_self]
        exact .cons head tail
      · rw [if_neg same]
        by_cases mem : d ∈ ds
        · rw [if_pos mem] at ih
          rw [if_pos (List.mem_cons_of_mem f mem)]
          exact .cons head ih
        · rw [if_neg mem] at ih
          rw [if_neg (List.not_mem_cons_of_ne_of_not_mem (Ne.symm same) mem)]
          exact .cons head ih

/-- The new value is found under its class, and everything else where it was. -/
theorem get?_insertInto (filed : Filed entries classes) (hk : k.Of d) (hl : l.Of e) (v : Value) :
    get? ⟨insertInto k v entries⟩ l = if d = e then some v else get? ⟨entries⟩ l := by
  induction filed with
  | nil => exact get?_cons hk hl v []
  | @cons entry f rest ds head tail ih =>
      rw [insertInto_cons hk head, get?_cons head hl]
      by_cases same : f = d
      · subst same
        rw [if_pos rfl, get?_cons head hl]
        split <;> rfl
      · rw [if_neg same, get?_cons head hl, ih]
        by_cases found : f = e
        · rw [if_pos found, if_pos found, if_neg (found ▸ Ne.symm same)]
        · rw [if_neg found, if_neg found]

end Entries

theorem contains_eq (c : Cache) (k : Key) : c.contains k = (c.get? k).isSome := by
  rw [get?, Option.isSome_map, contains, Bool.eq_iff_iff, List.any_eq_true, List.find?_isSome]

/-- The entries of the cache are those of the book, under keys of different classes. -/
structure Keeps (c : Cache) (b : Book) : Prop where
  filed : ∃ classes : List Class, Filed c.entries classes ∧ classes.Nodup ∧ b.keys = classes.toFinset
  finds {k : Key} {d : Class} : k.Of d → c.get? k = b.lookup d

theorem Keeps.empty : Keeps Cache.empty ∅ where
  filed := ⟨[], .nil, .nil, rfl⟩
  finds _ := rfl

theorem Keeps.size (h : Keeps c b) : c.size = b.keys.card := by
  obtain ⟨classes, filed, once, keys⟩ := h.filed
  rw [keys, List.toFinset_card_of_nodup once, Cache.size, filed.length_eq]

theorem Keeps.contains (h : Keeps c b) (hk : k.Of d) : c.contains k = decide (d ∈ b) := by
  rw [contains_eq, h.finds hk, Bool.eq_iff_iff, decide_eq_true_eq, Finmap.lookup_isSome]

theorem Keeps.insert (h : Keeps c b) (hk : k.Of d) (v : Value) :
    Keeps (c.insert k v) (b.insert d v) where
  filed := by
    obtain ⟨classes, filed, once, keys⟩ := h.filed
    have mem : d ∈ classes ↔ d ∈ b := by rw [← Finmap.mem_keys, keys, List.mem_toFinset]
    refine ⟨_, filed_insertInto filed hk v, ?_, Finset.ext fun e => ?_⟩
    · split
      case isTrue => exact once
      case isFalse new => simpa using List.Nodup.concat new once
    · rw [Finmap.mem_keys, Finmap.mem_insert, ← Finmap.mem_keys, keys]
      split
      case isTrue old => simpa using fun eq : e = d => eq ▸ old
      case isFalse => simp
  finds {l e} hl := by
    obtain ⟨classes, filed, -⟩ := h.filed
    rw [Cache.insert, get?_insertInto filed hk hl]
    split
    case isTrue same => rw [← same, Finmap.lookup_insert]
    case isFalse other => rw [Finmap.lookup_insert_of_ne _ (Ne.symm other), ← h.finds hl]

theorem Keeps.nonempty (h : Keeps c b) : c.nonempty = decide (0 < b.keys.card) := by
  rw [Cache.nonempty, h.size]

theorem Keeps.nonempty_iff (h : Keeps c b) : c.nonempty = true ↔ b ≠ ∅ := by
  rw [h.nonempty, decide_eq_true_eq, Finset.card_pos, Finset.nonempty_iff_ne_empty, ne_eq, ne_eq,
    Book.keys_eq_empty]

/-! ## One use -/

namespace Use

/-- The key has a class or a part that can change, and a factory leaves the cache alone. -/
def Plain : Use → Prop
  | .get key _ | .set key _ | .contains key => key.Settled
  | .getOrMake key first _ => key.Settled ∧ first = []
  | .size | .nonempty | .evict => True

theorem Plain.settled {u : Use} (plain : u.Plain) {key : Value} (keyed : u.key? = some key) :
    key.Settled := by
  cases u with
  | get | set | contains =>
      cases keyed
      exact plain
  | getOrMake =>
      cases keyed
      exact plain.1
  | size | nonempty | evict => cases keyed

end Use

/-- A use with a key that can change is refused and changes nothing. -/
theorem use_refused {u : Use} {key : Value} {kind : Text} (keyed : u.key? = some key)
    (changing : key.changing? = some kind) (c : Cache) :
    c.use u = (u.refusal (.unhashable kind), c, []) := by
  have refused := Key.ofValue_error.mpr changing
  cases u with
  | get | set | contains | getOrMake =>
      cases keyed
      simp [use, lookup, has, store, getOrMake, refused, Answer.ofExcept, Use.refusal, Except.map]
  | size | nonempty | evict => cases keyed

/-- Whatever a use does to a cache, it does to the book. -/
theorem Keeps.step (h : Keeps c b) {u : Use} (plain : u.Plain) :
    ∃ b', b.Step u (c.use u).1 (c.use u).2.2 b' ∧ Keeps (c.use u).2.1 b' := by
  by_cases refused : ∃ key kind, u.key? = some key ∧ key.changing? = some kind
  · obtain ⟨key, kind, keyed, changing⟩ := refused
    rw [use_refused keyed changing]
    exact ⟨b, .refused keyed changing, h⟩
  have read {key : Value} (keyed : u.key? = some key) :
      ∃ d k, key.HasClass d ∧ Key.ofValue key = .ok k ∧ k.Of d := by
    obtain ⟨d, classed⟩ := (plain.settled keyed).resolve_right fun ⟨kind, changing⟩ =>
      refused ⟨key, kind, keyed, changing⟩
    obtain ⟨k, ok, hk⟩ := Key.ofValue_of classed
    exact ⟨d, k, classed, ok, hk⟩
  cases u with
  | get key default =>
      obtain ⟨d, k, classed, ok, hk⟩ := read rfl
      simp only [use, lookup, ok, h.finds hk, Answer.ofExcept]
      exact ⟨b, .get default classed, h⟩
  | set key v =>
      obtain ⟨d, k, classed, ok, hk⟩ := read rfl
      simp only [use, store, ok]
      exact ⟨b.insert d v, .set v classed, h.insert hk v⟩
  | contains key =>
      obtain ⟨d, k, classed, ok, hk⟩ := read rfl
      simp only [use, has, ok, h.contains hk, Except.map, Answer.ofExcept]
      exact ⟨b, .contains classed, h⟩
  | size =>
      simp only [use, h.size]
      exact ⟨b, .size, h⟩
  | nonempty =>
      simp only [use, h.nonempty]
      exact ⟨b, .nonempty, h⟩
  | evict =>
      simp only [use, evict]
      split
      case isTrue filled =>
          rw [h.size]
          exact ⟨∅, .evict (h.nonempty_iff.mp filled), .empty⟩
      case isFalse bare =>
          exact ⟨b, .evictNothing (not_not.mp (mt h.nonempty_iff.mpr bare)), h⟩
  | getOrMake key first outcome =>
      obtain ⟨d, k, classed, ok, hk⟩ := read rfl
      obtain rfl := plain.2
      simp only [use, useAll, getOrMake, ok, h.finds hk, ite_self]
      cases found : b.lookup d with
      | some v => exact ⟨b, .found outcome classed found, h⟩
      | none =>
          cases outcome with
          | ok v => exact ⟨b.insert d v, .made v classed found, h.insert hk v⟩
          | error f => exact ⟨b, .raised f classed found, h⟩

/-! ## A whole run -/

/-- At every point of a run the book and the cache are where the history has brought the book. -/
theorem Keeps.at_split {past xs ys : List Exchange} {uses : List Use} (h : Keeps c b)
    (reached : b.Reached past) (plain : ∀ u ∈ uses, u.Plain)
    (split : c.transcript uses = xs ++ ys) :
    ∃ b' c' later, b'.Reached (past ++ xs) ∧ Keeps c' b' ∧ ys = c'.transcript later ∧
      ∀ u ∈ later, u.Plain := by
  induction xs generalizing c b past uses with
  | nil => exact ⟨b, c, uses, by rwa [List.append_nil], h, split.symm, plain⟩
  | cons x xs ih =>
      cases uses with
      | nil => cases split
      | cons u rest =>
          obtain ⟨rfl, tail⟩ := List.cons.inj split
          rw [List.forall_mem_cons] at plain
          obtain ⟨b', step, kept⟩ := h.step plain.1
          simpa using ih kept (reached.step (x := c.exchange u) step) plain.2 tail

/-- What holds of one exchange in a run, with the book and the history before it. -/
structure Account (b : Book) (past : List Exchange) (x : Exchange) : Prop where
  /-- What is answered and recorded is what the book gives. -/
  given : ∃ b', b.Step x.use x.answer x.logs b'
  /-- The book gives nothing else. -/
  sole {a : Answer} {logs : List Log.Record} {b' : Book} : b.Step x.use a logs b' →
    a = x.answer ∧ logs = x.logs
  /-- The keys of the book are the classes that were written since the last eviction. -/
  keys (d : Class) : d ∈ b.keys ↔ Written past d
  /-- The size is the number of these classes, and a cache counts as something if it has any. -/
  counted : (x.use = .size → x.answer = .value (.int b.keys.card)) ∧
    (x.use = .nonempty → x.answer = .value (.bool (decide (0 < b.keys.card))))
  /-- A null that was stored is an entry: it is found, and no factory is run in its place. -/
  null {key : Value} {d : Class} : key.HasClass d → b.lookup d = some .null →
    (∀ default, x.use = .get key default → x.answer = .value .null) ∧
    (x.use = .contains key → x.answer = .value (.bool true)) ∧
    ∀ first outcome, x.use = .getOrMake key first outcome → x.answer = .made false (.ok .null)
  /-- A key that can change is refused and nothing else happens. -/
  refused {key : Value} {kind : Text} : x.use.key? = some key → key.changing? = some kind →
    x.answer = x.use.refusal (.unhashable kind) ∧ x.logs = [] ∧ x.after = x.before
  /-- A factory that fails leaves the cache as it was, and the key without an entry. -/
  raised {key : Value} {first : List Use} {f : Failure} : x.use = .getOrMake key first (.error f) →
    x.after = x.before ∧
    (x.answer = .made true (.error f) → ∀ d, key.HasClass d → ¬ Written (past ++ [x]) d)
  /-- Of two factories that gave a value for one class, the second ran after an eviction. -/
  once {earlier between : List Exchange} {y : Exchange} {d : Class} :
    past = earlier ++ y :: between → y.Makes d → x.Makes d → ∃ z ∈ between, z.use = .evict
  /-- An eviction leaves nothing, and one record of how much there was if there was anything. -/
  evicted : x.use = .evict → x.after = Cache.empty ∧
    (b = ∅ → x.logs = []) ∧ (b ≠ ∅ → x.logs = [evictedRecord b.keys.card])

theorem Keeps.eq_empty (h : Keeps c ∅) : c = Cache.empty := by
  obtain ⟨classes, filed, -, keys⟩ := h.filed
  rw [Finmap.keys_empty, eq_comm, List.toFinset_eq_empty_iff] at keys
  have nothing : c.entries = [] := List.forall₂_nil_right_iff.mp (keys ▸ filed)
  exact congrArg Cache.mk nothing

/-- A factory that fails leaves the cache as it was. -/
theorem use_getOrMake_error (c : Cache) (key : Value) (f : Failure) :
    (c.use (.getOrMake key [] (.error f))).2.1 = c := by
  simp only [use, useAll, getOrMake]
  split
  · rfl
  · split <;> rfl

/-- What the history tells of an exchange, read off the book that the cache keeps. -/
theorem Keeps.account {past : List Exchange} {u : Use} (h : Keeps c b) (reached : b.Reached past)
    (plain : u.Plain) : Account b past (c.exchange u) := by
  obtain ⟨b', step, kept⟩ := h.step plain
  have sole {a : Answer} {logs : List Log.Record} {b'' : Book} (step' : b.Step u a logs b'') :
      a = (c.exchange u).answer ∧ logs = (c.exchange u).logs :=
    have same := step'.deterministic step
    ⟨same.1, same.2.1⟩
  have missing {key : Value} {first : List Use} {outcome o : Except Failure Value} {d : Class}
      (used : u = .getOrMake key first outcome) (ran : (c.exchange u).answer = .made true o)
      (classed : key.HasClass d) : ¬ Written past d := by
    rw [← reached.mem_iff]
    have step : b.Step u (c.exchange u).answer (c.exchange u).logs b' := step
    rw [ran] at step
    subst used
    exact step.missing classed
  refine ⟨⟨b', step⟩, sole, fun d => Finmap.mem_keys.trans (reached.mem_iff d), ?counted, ?null,
    ?refused, ?raised, ?once, ?evicted⟩
  case counted =>
    constructor
    · intro used
      obtain rfl : u = .size := used
      exact (sole .size).1.symm
    · intro used
      obtain rfl : u = .nonempty := used
      exact (sole .nonempty).1.symm
  case null =>
    intro key d classed found
    refine ⟨fun default used => ?_, fun used => ?_, fun first outcome used => ?_⟩
    · obtain rfl : u = .get key default := used
      have answered := (sole (.get default classed)).1
      rw [found] at answered
      exact answered.symm
    · obtain rfl : u = .contains key := used
      have answered := (sole (.contains classed)).1
      rw [decide_eq_true (Finmap.mem_of_lookup_eq_some found)] at answered
      exact answered.symm
    · obtain rfl : u = .getOrMake key first outcome := used
      obtain rfl := plain.2
      exact (sole (.found outcome classed found)).1.symm
  case refused =>
    intro key kind keyed changing
    have refusal := use_refused keyed changing c
    exact ⟨congrArg (·.1) refusal, congrArg (·.2.2) refusal, congrArg (·.2.1) refusal⟩
  case raised =>
    intro key first f used
    obtain rfl : u = .getOrMake key first (.error f) := used
    obtain rfl := plain.2
    refine ⟨use_getOrMake_error c key f, fun ran d classed => ?_⟩
    rw [written_concat]
    rintro ((⟨_, _, set, -⟩ | ⟨_, _, _, make, -⟩) | ⟨-, written⟩)
    · cases set
    · cases make
    · exact missing rfl ran classed written
  case once =>
    rintro earlier between y d eq first ⟨key, calls, v, used, classed, ran⟩
    by_contra unbroken
    have kept : ∀ z ∈ between, z.use ≠ .evict := fun z mem evict => unbroken ⟨z, mem, evict⟩
    exact missing used ran classed ⟨earlier, y, between, eq, .inr first, kept⟩
  case evicted =>
    intro used
    obtain rfl : u = .evict := used
    obtain rfl := step.evicted
    exact ⟨kept.eq_empty, fun bare => (sole (.evictNothing bare)).2.symm,
      fun filled => (sole (.evict filled)).2.symm⟩

/-- A cache that is empty at first is a finite map from classes of keys to values, whatever it is used
for: at each point of a run there is a book that the history has led to, and the exchange is as the
book has it. -/
theorem transcript_follows_book (uses : List Use) (plain : ∀ u ∈ uses, u.Plain) :
    (∃ b : Book, b.Reached (Cache.empty.transcript uses)) ∧
    ∀ past x future, Cache.empty.transcript uses = past ++ x :: future →
      ∃ b : Book, b.Reached past ∧ Account b past x := by
  constructor
  · obtain ⟨b, -, -, reached, -⟩ := Keeps.empty.at_split .start plain (List.append_nil _).symm
    exact ⟨b, reached⟩
  · intro past x future split
    obtain ⟨b, c, later, reached, kept, rest, plain⟩ := Keeps.empty.at_split .start plain split
    cases later with
    | nil => cases rest
    | cons u later =>
        obtain ⟨rfl, -⟩ := List.cons.inj rest
        exact ⟨b, reached, kept.account reached (plain u List.mem_cons_self)⟩

/-- Uses that spell one key in several ways, and a key that is refused. -/
def oneKeyUses : List Use :=
  let one : Value := .real (.finite false (2 ^ 52) (-52))
  [.set (.bool true) .null, .get one (.text "default"),
    .getOrMake (.tuple [.text "user", .int 1]) [] (.error (.plain "ValueError" "no user")),
    .getOrMake (.tuple [.text "user", one]) [] (.ok (.text "ada")),
    .getOrMake (.tuple [.text "user", .bool true]) [] (.ok (.text "bob")),
    .contains (.tuple [.null, .list []]), .size, .evict, .nonempty]

theorem transcript_follows_book_oneKey :
    (∀ u ∈ oneKeyUses, u.Plain) ∧
    (Cache.empty.transcript oneKeyUses).map (·.answer) =
      [.value .null, .value .null, .made true (.error (.plain "ValueError" "no user")),
        .made true (.ok (.text "ada")), .made false (.ok (.text "ada")), .failed (.unhashable "list"),
        .value (.int 2), .value .null, .value (.bool false)] ∧
    ∀ past x future, Cache.empty.transcript oneKeyUses = past ++ x :: future →
      ∃ b : Book, b.Reached past ∧ Account b past x := by
  have proper : (Binary64.finite false (2 ^ 52) (-52)).Proper :=
    ⟨by decide, by decide, by decide, .inl (by decide)⟩
  have user {v : Value} {d : Class} (h : v.HasClass d) :
      ∃ e, (Value.tuple [.text "user", v]).HasClass e :=
    ⟨_, .tuple (.cons (.text _) (.cons h .nil))⟩
  have plain : ∀ u ∈ oneKeyUses, u.Plain := by
    simp only [oneKeyUses, List.forall_mem_cons]
    exact ⟨.inl ⟨_, .bool true⟩, .inl ⟨_, .real proper⟩, ⟨.inl (user (.int 1)), rfl⟩,
      ⟨.inl (user (.real proper)), rfl⟩, ⟨.inl (user (.bool true)), rfl⟩, .inr ⟨_, rfl⟩, trivial,
      trivial, trivial, List.forall_mem_nil _⟩
  exact ⟨plain, rfl, (transcript_follows_book oneKeyUses plain).2⟩

end QueryGateway.Cache
