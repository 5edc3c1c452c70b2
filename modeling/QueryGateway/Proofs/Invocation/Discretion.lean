import QueryGateway.Proofs.Invocation.Unstarted
import QueryGateway.Proofs.Rehearsal.Plan

/-!
# What the log tells of a query

The text of a query and the values of its variables may be anybody's secrets, and the log is read by
others. Two requests are `Twins` if they differ in nothing else: they ask for the same operation with
the same headers in the same surroundings.

* Twins that both succeed leave the same records, if their results have equally many errors and
  equally many entries are in the cache at the end (`log_discreet`, first half).
* Whatever becomes of them, the records for information are the same (second half). There is one,
  that of the access, if accesses are recorded and the validator returned something that can be put
  into words (`Informs`), and none otherwise.

The access is recorded in words, so a user that cannot be put into words ends the invocation in front
of its record, and null is recorded like any user (`access_unlike_users`).

What is NOT here: records of failures. They tell what failed, and that may come from the query.
-/

namespace QueryGateway.Invocation

variable {d : Deployment} {arrival arrival' : Arrival} {caches : Caches}

/-! ## Records for information -/

/-- The records of an access: one, if these are kept and the validator names a user. -/
def Understood.accesses (m : Understood d arrival) (id : Value) (caches : Caches) :
    List Log.Record :=
  match d.enableAccessLog, (d.validate (credentials m.event) caches).1 with
  | .ok true, .ok user =>
    match d.userText user with
    | .ok shown => [accessRecord (idOf id m.event) m.query shown]
    | .error _ => []
  | _, _ => []

theorem Admitted.accesses_eq (m : Admitted d arrival caches) (id : Value) :
    m.toUnderstood.accesses id caches = match accessText d m.user with
      | .ok shown => shown.toList.map (accessRecord (idOf id m.event) m.query)
      | .error _ => [] := by
  rw [Understood.accesses, m.admitted, accessText]
  cases d.enableAccessLog with
  | error f => rfl
  | ok kept =>
      cases kept with
      | false => rfl
      | true =>
          dsimp only [Except.ok_bind]
          rw [if_pos rfl]
          cases d.userText m.user with
          | error f => rfl
          | ok shown => rfl

theorem Noted.access_eq (m : Noted d arrival caches) (id : Value) :
    m.access id = m.toUnderstood.accesses id caches := by
  rw [m.accesses_eq, m.noted]
  rfl

/-- An access is recorded, in these words. -/
structure Understood.Informs (m : Understood d arrival) (caches : Caches) (user : User)
    (shown : Text) : Prop where
  kept : d.enableAccessLog = .ok true
  named : (d.validate (credentials m.event) caches).1 = .ok user
  worded : d.userText user = .ok shown

theorem Understood.Informs.accesses_eq {m : Understood d arrival} {user : User} {shown : Text}
    (h : m.Informs caches user shown) (id : Value) :
    m.accesses id caches = [accessRecord (idOf id m.event) m.query shown] := by
  simp only [accesses, h.kept, h.named, h.worded]

theorem Understood.accesses_none {m : Understood d arrival}
    (h : ∀ user shown, ¬ m.Informs caches user shown) (id : Value) : m.accesses id caches = [] := by
  unfold accesses
  split
  · rename_i user kept named
    split
    · rename_i shown worded
      exact absurd ⟨kept, named, worded⟩ (h user shown)
    · rfl
  · rfl

theorem Understood.accesses_refused (m : Understood d arrival) (id : Value) {f : Failure}
    (h : (d.validate (credentials m.event) caches).1 = .error f) : m.accesses id caches = [] := by
  rw [accesses, h]
  cases d.enableAccessLog with
  | error g => rfl
  | ok kept => cases kept <;> rfl

/-- Up to its outcome an invocation leaves, beside the validator's records and that of the access,
nothing for information. -/
theorem Passage.records_info {id : Value} {c : Course} (p : Passage d arrival caches id c)
    (u : Understood d arrival) :
    ∃ rest, recordsOf c.run.trace = said d arrival caches ++ u.accesses id caches ++ rest ∧
      ∀ r ∈ rest, r.level ≠ Log.info := by
  have silent (h : u.accesses id caches = []) (records : recordsOf c.run.trace =
      said d arrival caches) :
      ∃ rest, recordsOf c.run.trace = said d arrival caches ++ u.accesses id caches ++ rest ∧
        ∀ r ∈ rest, r.level ≠ Log.info :=
    ⟨[], by rw [records, h, List.append_nil, List.append_nil], List.forall_mem_nil _⟩
  have noted (m : Noted d arrival caches) (records : recordsOf c.run.trace =
      said d arrival caches ++ m.access id) :
      ∃ rest, recordsOf c.run.trace = said d arrival caches ++ u.accesses id caches ++ rest ∧
        ∀ r ∈ rest, r.level ≠ Log.info := by
    rw [m.access_eq, Subsingleton.elim m.toUnderstood u] at records
    exact ⟨[], by rw [records, List.append_nil], List.forall_mem_nil _⟩
  cases p with
  | unopened f h => cases h.symm.trans u.opened
  | rejected m x h => cases h.symm.trans u.addressed
  | misunderstood m f h =>
      cases Subsingleton.elim m u.toAddressed
      cases h.symm.trans u.understood
  | refused m f h =>
      cases Subsingleton.elim u m
      exact silent (u.accesses_refused id h) (u.records_eq id caches)
  | unnoted m f h =>
      cases Subsingleton.elim u m.toUnderstood
      refine silent (by rw [m.accesses_eq, h]) ?_
      rw [recordsOf_add _ rfl]
      exact m.toUnderstood.records_eq id caches
  | unequipped m =>
      refine noted m ?_
      show recordsOf ((m.run id).add _).trace = _
      rw [recordsOf_add _ rfl, m.records_eq]
  | undispatched m => exact noted m.toNoted (m.records_eq id)
  | startedBefore m =>
      refine noted m.toNoted ?_
      rw [recordsOf_add _ rfl]
      exact m.toEquipped.records_eq id
  | unstarted m => exact noted m.toNoted (m.records_eq id)
  | unperformed m => exact noted m.toNoted (m.records_eq id)
  | unwritten m => exact noted m.toNoted (m.toStarted.records_eq id)
  | unanswered m => exact noted m.toNoted (m.records_eq id)
  | answered m response =>
      refine ⟨[executedRecord (idOf id m.event) m.query m.result], ?_, ?_⟩
      · rw [← Subsingleton.elim m.toUnderstood u, ← m.toNoted.access_eq]
        show recordsOf (_ ++ [_].map Deed.record) = _
        rw [recordsOf_records, m.records_eq]
      · intro r mem
        rw [List.mem_singleton.mp mem]
        show Log.debug ≠ Log.info
        decide

/-- The clean-up leaves nothing for information. -/
theorem closingRecords_level (d : Deployment) (o : Except Failure Response) (r : Run) :
    ∀ s ∈ closingRecords d o r, s.level ≠ Log.info := by
  intro s mem
  rw [closingRecords, List.mem_append, List.mem_append, Option.mem_toList, Option.mem_toList] at mem
  rcases mem with (settled | dropped) | evicted
  · cases o with
    | ok response => cases settled
    | error f =>
        rw [outcomeRecord?] at settled
        split at settled
        · cases settled
        · cases settled
          rw [failureRecord]
          split
          · show Log.warning ≠ Log.info
            decide
          · show Log.error ≠ Log.info
            decide
  · obtain ⟨b, -, dropped⟩ := Option.bind_eq_some_iff.mp dropped
    split at dropped
    · cases dropped
    · cases dropped
      show Log.warning ≠ Log.info
      decide
  · rw [Cache.evict] at evicted
    split at evicted
    · rw [List.mem_singleton.mp evicted]
      show Log.debug ≠ Log.info
      decide
    · cases evicted

theorem handle_records_info (u : Understood d arrival) (requestId : Value) (fresh : Text)
    (caches : Caches) :
    ∃ rest, recordsOf (handle d arrival requestId fresh caches).run.trace =
        said d arrival caches ++ u.accesses (initialId requestId fresh) caches ++ rest ∧
      ∀ r ∈ rest, r.level ≠ Log.info := by
  obtain ⟨rest, records, level⟩ :=
    (course_passage d arrival caches (initialId requestId fresh)).records_info u
  refine ⟨rest ++ closingRecords d (course d arrival (initialId requestId fresh) caches).outcome
    (course d arrival (initialId requestId fresh) caches).run, ?_,
    List.forall_mem_append.mpr ⟨level, closingRecords_level d _ _⟩⟩
  rw [handle_records, records, List.append_assoc]

/-! ## Success -/

/-- The cache of the adapter when it is emptied. -/
def cacheAtEnd (d : Deployment) (arrival : Arrival) (requestId : Value) (fresh : Text)
    (caches : Caches) : Cache :=
  (course d arrival (initialId requestId fresh) caches).run.caches d.cache

theorem Standing.built_started {id : Value} {c : Course} (s : Standing d arrival caches id c)
    (m : Started d arrival caches) : ∀ b, c.run.built = some b → b.context.isStarted = true := by
  cases s with
  | absent none => exact absurd ⟨m.toEquipped⟩ none
  | undispatched m' f failed => exact absurd failed (m.not_failed m' f)
  | unstarted _ _ _ _ started => exact started
  | ended _ _ _ started => exact started

/-- All records of an invocation that succeeds. -/
theorem Written.handle_records (m : Written d arrival caches) {response : Response}
    (answered : m.response = .ok response) (requestId : Value) (fresh : Text) :
    let id := initialId requestId fresh
    recordsOf (handle d arrival requestId fresh caches).run.trace =
      said d arrival caches ++ m.toUnderstood.accesses id caches ++
        [executedRecord (idOf id m.event) m.query m.result] ++
        (cacheAtEnd d arrival requestId fresh caches).evict.2 := by
  intro id
  have p := course_passage d arrival caches id
  have outcome : (course d arrival id caches).outcome = .ok response :=
    p.outcome_eq.trans (m.verdict_eq.trans answered)
  obtain ⟨m', -, records⟩ := p.records_ok outcome
  cases Subsingleton.elim m m'
  have none := droppedRecord?_started (d := d) (p.standing.built_started m.toStarted)
  rw [Invocation.handle_records, records, closingRecords, outcome, none, m.toNoted.access_eq]
  rfl

/-! ## Twins -/

/-- Two requests that differ in nothing but the text of the query and the values of its
variables. -/
structure Twins (u : Understood d arrival) (u' : Understood d arrival') : Prop where
  headers : u.event.headers = u'.event.headers
  requestContext : u.event.requestContext = u'.event.requestContext
  operation : u.query.operationName = u'.query.operationName

section Twins
variable {u : Understood d arrival} {u' : Understood d arrival'}

theorem Twins.idOf_eq (t : Twins u u') (id : Value) : idOf id u.event = idOf id u'.event := by
  have own : u.event.requestId = u'.event.requestId := by
    rw [Event.requestId, Event.requestId, t.requestContext]
  rw [idOf, idOf, own]

theorem Twins.credentials_eq (t : Twins u u') : credentials u.event = credentials u'.event :=
  congrArg (Http.Headers.get? · Http.authorization) t.headers

theorem Twins.operationField_eq (t : Twins u u') :
    operationField u.query = operationField u'.query := by
  rw [operationField, operationField, t.operation]

theorem Twins.accessRecord_eq (t : Twins u u') (id : Value) (shown : Text) :
    accessRecord (idOf id u.event) u.query shown = accessRecord (idOf id u'.event) u'.query shown := by
  have word : operationShown u.query = operationShown u'.query := by
    rw [operationShown, operationShown, t.operation]
  rw [accessRecord, accessRecord, t.idOf_eq, t.operationField_eq, word]

theorem Twins.executedRecord_eq (t : Twins u u') (id : Value) {r r' : Result}
    (errors : r.errorCount = r'.errorCount) :
    executedRecord (idOf id u.event) u.query r = executedRecord (idOf id u'.event) u'.query r' := by
  rw [executedRecord, executedRecord, t.idOf_eq, t.operationField_eq, errors]

theorem Twins.said_eq (t : Twins u u') (caches : Caches) :
    said d arrival caches = said d arrival' caches := by
  rw [u.said_eq, u'.said_eq, t.credentials_eq]

theorem Twins.accesses_eq (t : Twins u u') (id : Value) (caches : Caches) :
    u.accesses id caches = u'.accesses id caches := by
  simp only [Understood.accesses, t.credentials_eq, t.accessRecord_eq]

end Twins

theorem evict_records_eq {c c' : Cache} (same : c.size = c'.size) : c.evict.2 = c'.evict.2 := by
  have nonempty : c.nonempty = c'.nonempty := by rw [Cache.nonempty, Cache.nonempty, same]
  rw [Cache.evict, Cache.evict, nonempty, same]
  split <;> rfl

/-- The log tells neither the text of a query that was executed nor the values of its variables, and
the records for information never do: beside those of the validator there is that of the access, or
none. -/
theorem log_discreet {u : Understood d arrival} {u' : Understood d arrival'} (twins : Twins u u')
    (requestId : Value) (fresh : Text) (caches : Caches) :
    let id := initialId requestId fresh
    let records := recordsOf (handle d arrival requestId fresh caches).run.trace
    let records' := recordsOf (handle d arrival' requestId fresh caches).run.trace
    (∀ (m : Written d arrival caches) (m' : Written d arrival' caches) (response response'),
      m.response = .ok response → m'.response = .ok response' →
      m.result.errorCount = m'.result.errorCount →
      (cacheAtEnd d arrival requestId fresh caches).size =
        (cacheAtEnd d arrival' requestId fresh caches).size →
      records = records') ∧
    ∃ accesses rest rest', records = said d arrival caches ++ accesses ++ rest ∧
      records' = said d arrival caches ++ accesses ++ rest' ∧
      (∀ r ∈ rest ++ rest', r.level ≠ Log.info) ∧
      (∀ user shown, u.Informs caches user shown →
        accesses = [accessRecord (idOf id u.event) u.query shown]) ∧
      ((∀ user shown, ¬ u.Informs caches user shown) → accesses = []) := by
  intro id records records'
  constructor
  · intro m m' response response' answered answered' errors entries
    cases Subsingleton.elim m.toUnderstood u
    cases Subsingleton.elim m'.toUnderstood u'
    show recordsOf _ = recordsOf _
    rw [m.handle_records answered, m'.handle_records answered', evict_records_eq entries,
      twins.said_eq, twins.accesses_eq, twins.executedRecord_eq _ errors]
  · obtain ⟨rest, mine, level⟩ := handle_records_info u requestId fresh caches
    obtain ⟨rest', other, level'⟩ := handle_records_info u' requestId fresh caches
    rw [← twins.said_eq, ← twins.accesses_eq] at other
    exact ⟨_, rest, rest', mine, other, List.forall_mem_append.mpr ⟨level, level'⟩,
      fun user shown informs => informs.accesses_eq id,
      fun none => Understood.accesses_none none id⟩

open Rehearsal in
/-- An engine that gives the query back. -/
def echoDeployment : Deployment :=
  { cachingDeployment none with
    dispatch := fun _ q _ caches =>
      (.ok ⟨fun caches => (.ok ⟨.text q.text, none, .null⟩, caches, [])⟩, caches) }

open Rehearsal in
/-- Another query, with a value for a variable. -/
def secretRequest : Event :=
  { helloEvent with
    body := some "\x7b\"query\": \"\x7b pin(n: $n) \x7d\", \"variables\": \x7b\"n\": 1234\x7d\x7d" }

theorem errorCount_echo {arrival : Arrival} {caches : Caches}
    (m : Written echoDeployment arrival caches) : m.result.errorCount = 0 := by
  have execution := Except.ok.inj m.dispatched
  have performed := m.performed
  rw [← execution] at performed
  rw [← Except.ok.inj performed]
  rfl

open Rehearsal in
/-- What a query that is given back has come to, if it asks for no operation by name. -/
theorem written_echo {e : Event} (answers :
      (course echoDeployment (.event e) (initialId .null "id") Caches.empty).outcome.toBool = true)
    (anonymous :
      ((decodeBody e >>= Query.parse).map Query.operationName).toOption = some none) :
    ∃ (m : Written echoDeployment (.event e) Caches.empty) (response : Response),
      m.response = .ok response ∧ m.event = e ∧ m.query.operationName = none := by
  have p := course_passage echoDeployment (.event e) Caches.empty (initialId .null "id")
  cases outcome :
      (course echoDeployment (.event e) (initialId .null "id") Caches.empty).outcome with
  | error f =>
      rw [outcome] at answers
      cases answers
  | ok response =>
      obtain ⟨m, made, -⟩ := p.records_ok outcome
      have event : m.event = e := (Except.ok.inj m.addressed).symm
      have understood := m.understood
      rw [event] at understood
      rw [understood] at anonymous
      exact ⟨m, response, made, event, Option.some.inj anonymous⟩

open Rehearsal in
/-- Two queries that are given back leave the same records. -/
theorem log_discreet_echoed :
    (handle echoDeployment (.event helloEvent) .null "id" Caches.empty).ending ≠
        (handle echoDeployment (.event secretRequest) .null "id" Caches.empty).ending ∧
      recordsOf (handle echoDeployment (.event helloEvent) .null "id" Caches.empty).run.trace =
        recordsOf
          (handle echoDeployment (.event secretRequest) .null "id" Caches.empty).run.trace := by
  obtain ⟨m, response, made, event, anonymous⟩ :=
    written_echo (e := helloEvent) (by decide +kernel) (by decide +kernel)
  obtain ⟨m', response', made', event', anonymous'⟩ :=
    written_echo (e := secretRequest) (by decide +kernel) (by decide +kernel)
  have twins : Twins m.toUnderstood m'.toUnderstood :=
    ⟨by rw [event, event']; rfl, by rw [event, event']; rfl, by rw [anonymous, anonymous']⟩
  have entries : (cacheAtEnd echoDeployment (.event helloEvent) .null "id" Caches.empty).size =
      (cacheAtEnd echoDeployment (.event secretRequest) .null "id" Caches.empty).size := by
    decide +kernel
  have errors : m.result.errorCount = m'.result.errorCount := by
    rw [errorCount_echo, errorCount_echo]
  refine ⟨fun same => ?_, (log_discreet twins .null "id" Caches.empty).1 m m' response response'
    made made' errors entries⟩
  have bodies := congrArg (fun e : Ending => e.response?.map Response.body) same
  exact absurd bodies (by decide +kernel)

/-! ## Users that are no users -/

open Rehearsal in
/-- A deployment whose users cannot be put into words. -/
def wordlessUsers : Deployment :=
  { cachingDeployment none with userText := fun _ => .error (.plain "ValueError" "no words") }

open Rehearsal in
/-- A deployment whose validator returns null. -/
def nullUsers : Deployment :=
  { cachingDeployment none with validate := fun _ caches => (.ok (.value .null), caches, []) }

open Rehearsal in
/-- Both keep the access log, and their validators return something. The one records no access, for
want of words, and the other records that of nobody. -/
theorem access_unlike_users :
    (wordlessUsers.enableAccessLog = .ok true ∧
      (∃ user, (wordlessUsers.validate (credentials helloEvent) Caches.empty).1 = .ok user) ∧
      (recordsOf (handle wordlessUsers (.event helloEvent) .null "id"
        Caches.empty).run.trace).filter (·.level = Log.info) = []) ∧
    (nullUsers.validate (credentials helloEvent) Caches.empty).1 = .ok (.value .null) ∧
      ((recordsOf (handle nullUsers (.event helloEvent) .null "id" Caches.empty).run.trace).filter
        (·.level = Log.info)).length = 1 :=
  ⟨⟨rfl, ⟨_, rfl⟩, List.isEmpty_iff.mp (by decide +kernel)⟩, rfl, by decide +kernel⟩

end QueryGateway.Invocation
