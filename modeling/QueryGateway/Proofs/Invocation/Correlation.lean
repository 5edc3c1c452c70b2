import QueryGateway.Proofs.Invocation.Records

/-!
# One id for one invocation

The records of one invocation are tied together by an id. There are three places that it can come
from, in this order: the request, the environment, and a text that was made for this invocation.
`Identifies` says which of them counts. The request's own id is known only once the event was read,
so an invocation that fails before that goes by one of the other two.

The id is settled in the middle of an invocation, and records are left from three places: on the way
to the response, for a failure, and in the clean-up. `records_tied_together` says that all of them
carry the same id, wherever the invocation ends.

What is NOT here: the records of the validator. It is asked for nothing but a user, and what it
leaves in the log is its own.
-/

namespace QueryGateway.Invocation

variable {d : Deployment} {arrival : Arrival} {caches : Caches} {requestId : Value} {fresh : Text}

/-! ## Where the id comes from -/

variable (d arrival requestId fresh) in
/-- The id that an invocation goes by: that of the request if it was read and has one, else that of
the environment if it has one, else the one made for this invocation. -/
inductive Identifies : Value → Prop
  | request (m : Addressed d arrival) : m.event.requestId.isTruthy = true →
      Identifies m.event.requestId
  | environment : (∀ m : Addressed d arrival, m.event.requestId.isTruthy = false) →
      requestId.isTruthy = true → Identifies requestId
  | made : (∀ m : Addressed d arrival, m.event.requestId.isTruthy = false) →
      requestId.isTruthy = false → Identifies (.text fresh)

theorem Identifies.unique {v w : Value} (hv : Identifies d arrival requestId fresh v)
    (hw : Identifies d arrival requestId fresh w) : v = w := by
  cases hv with
  | request m some =>
      cases hw with
      | request m' _ => rw [Subsingleton.elim m m']
      | environment none _ => simp [none m] at some
      | made none _ => simp [none m] at some
  | environment none given =>
      cases hw with
      | request m some => simp [none m] at some
      | environment => rfl
      | made _ missing => simp [given] at missing
  | made none missing =>
      cases hw with
      | request m some => simp [none m] at some
      | environment _ given => simp [missing] at given
      | made => rfl

/-- An id is never nothing. -/
theorem Identifies.ne_null {v : Value} (h : Identifies d arrival requestId fresh v) :
    v ≠ .null := by
  have nothing : Value.null.isTruthy = false := rfl
  cases h with
  | request m some =>
      intro null
      simp [null, nothing] at some
  | environment _ given =>
      intro null
      simp [null, nothing] at given
  | made => simp

/-- Without an id in a request that was read, the id is the one from before. -/
theorem identifies_initial (none : ∀ m : Addressed d arrival, m.event.requestId.isTruthy = false) :
    Identifies d arrival requestId fresh (initialId requestId fresh) := by
  cases given : requestId.isTruthy with
  | true =>
      rw [initialId, if_pos given]
      exact .environment none given
  | false =>
      rw [initialId, given, if_neg Bool.false_ne_true]
      exact .made none given

theorem Addressed.identifies (m : Addressed d arrival) :
    Identifies d arrival requestId fresh (idOf (initialId requestId fresh) m.event) := by
  cases own : m.event.requestId.isTruthy with
  | true =>
      rw [idOf, if_pos own]
      exact .request m own
  | false =>
      rw [idOf, own, if_neg Bool.false_ne_true]
      exact identifies_initial fun m' => by rw [Subsingleton.elim m' m, own]

/-- Wherever an invocation ends, the id is settled. -/
theorem Passage.identifies {c : Course}
    (p : Passage d arrival caches (initialId requestId fresh) c) :
    Identifies d arrival requestId fresh c.run.correlationId := by
  cases p with
  | unopened f closed =>
      refine identifies_initial fun m => ?_
      cases closed.symm.trans m.opened
  | rejected _ x closed =>
      refine identifies_initial fun m => ?_
      cases closed.symm.trans m.addressed
  | misunderstood m | refused m | unnoted m | unequipped m | undispatched m | startedBefore m
  | unstarted m | unperformed m | unwritten m | unanswered m | answered m =>
      exact m.identifies

/-- Once the event was read, the id is the one that goes with it. -/
theorem Passage.correlationId_eq {id : Value} {c : Course} (p : Passage d arrival caches id c)
    (m : Addressed d arrival) : c.run.correlationId = idOf id m.event := by
  cases p with
  | unopened f closed => cases closed.symm.trans m.opened
  | rejected _ x closed => cases closed.symm.trans m.addressed
  | misunderstood m' =>
      rw [Subsingleton.elim m m']
      rfl
  | refused m' | unnoted m' | unequipped m' | undispatched m' | startedBefore m' | unstarted m'
  | unperformed m' | unwritten m' | unanswered m' | answered m' =>
      rw [Subsingleton.elim m m'.toAddressed]
      rfl

/-! ## Records with an id -/

/-- A record of the adapter, or of what it makes of a failure, with this id. -/
structure Tied (id : Value) (r : Log.Record) : Prop where
  speaker : r.logger = logger ∨ r.logger = failureLogger
  identified : r.correlationId = some id

section Tied
variable {id : Value}

theorem tied_of (some : id ≠ .null) {level : Log.Level} {speaker message : Text}
    {context : Members} {failure : Option Failure}
    (known : speaker = logger ∨ speaker = failureLogger) :
    Tied id (.of level speaker message id context failure) := by
  rw [Log.Record.of, Log.extra_of_ne_null some]
  exact ⟨known, rfl⟩

theorem tied_failure (some : id ≠ .null) (f : Failure) : Tied id (failureRecord f id) := by
  rw [failureRecord]
  split
  · exact tied_of some (.inr rfl)
  · exact tied_of some (.inr rfl)

theorem Noted.tied_access {m : Noted d arrival caches} (some : idOf id m.event ≠ .null) :
    ∀ r ∈ m.access id, Tied (idOf id m.event) r := by
  intro r mem
  obtain ⟨shown, -, rfl⟩ := List.mem_map.mp mem
  exact tied_of some (.inl rfl)

/-- What an invocation leaves up to its outcome, beside the validator's records. -/
theorem Passage.tied {c : Course} (p : Passage d arrival caches id c)
    (some : c.run.correlationId ≠ .null) :
    ∃ own, recordsOf c.run.trace = said d arrival caches ++ own ∧
      ∀ r ∈ own, Tied c.run.correlationId r := by
  cases outcome : c.outcome with
  | error f =>
      rcases p.records_error outcome with records | ⟨m, records⟩
      · exact ⟨[], by rw [records, List.append_nil], List.forall_mem_nil _⟩
      · rw [p.correlationId_eq m.toAddressed] at some ⊢
        exact ⟨_, records, m.tied_access some⟩
  | ok response =>
      obtain ⟨m, -, records⟩ := p.records_ok outcome
      rw [p.correlationId_eq m.toAddressed] at some ⊢
      refine ⟨_, records.trans (List.append_assoc ..), ?_⟩
      rw [List.forall_mem_append]
      refine ⟨m.toNoted.tied_access some, ?_⟩
      intro r mem
      rw [List.mem_singleton.mp mem]
      exact tied_of some (.inl rfl)

/-- What the clean-up leaves, beside the record of the cache. -/
theorem tied_closing (d : Deployment) (o : Except Failure Response) {r : Run}
    (some : r.correlationId ≠ .null) :
    ∀ s ∈ (outcomeRecord? o r.correlationId).toList ++ (droppedRecord? d r).toList,
      Tied r.correlationId s := by
  rw [List.forall_mem_append]
  constructor
  · intro s mem
    rw [Option.mem_toList] at mem
    cases o with
    | ok response => cases mem
    | error f =>
        rw [outcomeRecord?] at mem
        split at mem
        · cases mem
        · cases mem
          exact tied_failure some f
  · intro s mem
    rw [Option.mem_toList, droppedRecord?] at mem
    obtain ⟨b, -, dropped⟩ := Option.bind_eq_some_iff.mp mem
    split at dropped
    · cases dropped
    · cases dropped
      exact tied_of some (.inl rfl)

end Tied

theorem evict_logger (c : Cache) : ∀ r ∈ c.evict.2, r.logger = Cache.logger := by
  intro r mem
  rw [Cache.evict] at mem
  split at mem
  · rw [List.mem_singleton.mp mem]
    rfl
  · cases mem

/-! ## All records of an invocation -/

/-- An invocation goes by exactly one id, and all records that it leaves carry it, but those of the
validator and of the cache. -/
theorem records_tied_together (d : Deployment) (arrival : Arrival) (requestId : Value)
    (fresh : Text) (caches : Caches) :
    ∃ id, (∀ v, Identifies d arrival requestId fresh v ↔ v = id) ∧
      ∃ own evicted, recordsOf (handle d arrival requestId fresh caches).run.trace =
          said d arrival caches ++ own ++ evicted ∧
        (∀ r ∈ own, Tied id r) ∧ ∀ r ∈ evicted, r.logger = Cache.logger := by
  have p := course_passage d arrival caches (initialId requestId fresh)
  have settled := p.identifies
  obtain ⟨own, records, tied⟩ := p.tied settled.ne_null
  refine ⟨_, fun v => ⟨fun h => h.unique settled, fun same => same ▸ settled⟩, ?_⟩
  have closing := tied_closing d (course d arrival (initialId requestId fresh) caches).outcome
    settled.ne_null
  refine ⟨own ++ _, ((course d arrival (initialId requestId fresh) caches).run.caches
    d.cache).evict.2, ?_, List.forall_mem_append.mpr ⟨tied, closing⟩, evict_logger _⟩
  simp only [handle_records, records, closingRecords, List.append_assoc]

end QueryGateway.Invocation
