import QueryGateway.Proofs.Failure.Encoding
import QueryGateway.Proofs.Invocation.Order
import QueryGateway.Proofs.Invocation.Shape
import QueryGateway.Proofs.Invocation.Totality
import QueryGateway.Proofs.Text.Transport

/-!
# Arrivals that hold no query

`Malformed` lists what can be wrong with an arrival before anybody is asked about it: it is no
event, its body is missing or blank, a body in base64 stands for no text, or the text is blank or no
query. The list speaks of the arrival alone and not of the stages that find out; `malformed_iff` says
that it is complete: whatever is not malformed holds a query.

An invocation refuses a malformed arrival on the spot (`Refused`): status 500, one record of an
error, and no question to anybody but the one whether failures are shown. It calls it malformed with one
exception: a body in base64 that goes beyond ASCII is refused by the decoder in a way that nobody
expects, and passes for a fault of the gateway itself (`BeyondAscii`).

What is NOT here: the order in which faults of an arrival are found. A blank text in base64 is
malformed for two reasons, and none of the statements asks which came first.
-/

namespace QueryGateway

open Text

/-! ## Base64 is written in ASCII -/

namespace Base64

theorem letters_standard : (standard.letters.all fun letter =>
    (CodePoint.ofChar letter).isAscii && !(CodePoint.ofChar letter).isBlank) = true := by
  decide

theorem digit?_standard {c : CodePoint} {n : Nat} (h : standard.digit? c = some n) :
    c.isAscii = true ∧ c.isBlank = false := by
  obtain ⟨inside, found, -⟩ := List.findIdx?_eq_some_iff_getElem.mp h
  have letter := List.all_eq_true.mp letters_standard _ (List.getElem_mem inside)
  rwa [of_decide_eq_true found, Bool.and_eq_true, Bool.not_eq_true'] at letter

/-- Every letter of a run that has digits has one. -/
theorem mapM_digit?_mem {a : Alphabet} {t : Text} {ns : List Nat} (h : t.mapM a.digit? = some ns)
    {c : CodePoint} (mem : c ∈ t) : ∃ n, a.digit? c = some n := by
  induction t generalizing ns with
  | nil => cases mem
  | cons first rest ih =>
      rw [List.mapM_cons] at h
      obtain ⟨n, digit, h⟩ := Option.bind_eq_some_iff.mp h
      obtain ⟨more, digits, -⟩ := Option.bind_eq_some_iff.mp h
      rcases List.mem_cons.mp mem with rfl | mem
      · exact ⟨n, digit⟩
      · exact ih digits mem

/-- A text that can be decoded holds letters and padding only. -/
theorem decode?_standard {t : Text} {bytes : Bytes} (h : decode? standard t = some bytes)
    {c : CodePoint} (mem : c ∈ t) : c.isAscii = true ∧ c.isBlank = false := by
  unfold decode? at h
  dsimp only at h
  split at h
  · rename_i padded
    obtain ⟨ns, digits, -⟩ := Option.map_eq_some_iff.mp h
    rw [← List.takeWhile_append_dropWhile (p := fun c : CodePoint => c ≠ '=') (l := t)] at mem
    rcases List.mem_append.mp mem with mem | mem
    · obtain ⟨n, digit⟩ := mapM_digit?_mem digits mem
      exact digit?_standard digit
    · have pad := List.all_eq_true.mp (Bool.and_eq_true_iff.mp padded).1 c mem
      rw [of_decide_eq_true pad]
      decide
  · cases h

end Base64

namespace Invocation

variable {d : Deployment} {arrival : Arrival} {caches : Caches}

/-! ## What an arrival carries -/

/-- The text that the body of an event stands for: the body itself, or what was put in base64. -/
inductive Event.Carries (e : Event) (t : Text) : Prop
  | plain : e.isBase64 = false → e.body = some t → Carries e t
  | encoded {body : Text} {bytes : Bytes} : e.isBase64 = true → e.body = some body →
      Base64.decode? Base64.standard body = some bytes → Utf8.decode? bytes = some t → Carries e t

/-- The ways in which an arrival holds no query. -/
inductive Malformed (arrival : Arrival) : Prop
  | noEvent {x : Form.Rejection} : arrival.read = .error x → Malformed arrival
  | noBody {e : Event} : arrival.read = .ok e → e.body = none → Malformed arrival
  | blankBody {e : Event} {body : Text} : arrival.read = .ok e → e.body = some body →
      isBlank body = true → Malformed arrival
  | undecodable {e : Event} {body : Text} : arrival.read = .ok e → e.isBase64 = true →
      e.body = some body → (∀ t, ¬ e.Carries t) → Malformed arrival
  | blankText {e : Event} {t : Text} : arrival.read = .ok e → e.Carries t → isBlank t = true →
      Malformed arrival
  | noQuery {e : Event} {t : Text} : arrival.read = .ok e → e.Carries t →
      (∀ q, Query.ofJson t ≠ .ok q) → Malformed arrival

/-- The body is marked as base64 and holds a character beyond ASCII. -/
def BeyondAscii (arrival : Arrival) : Prop :=
  ∃ e body, arrival.read = .ok e ∧ e.isBase64 = true ∧ e.body = some body ∧
    ∃ c ∈ body, c.isAscii = false

/-- The query of an arrival, as an invocation reads it. -/
def Arrival.query (arrival : Arrival) : Except Failure Query := do
  let event ← arrival.read.mapError malformedEvent
  decodeBody event >>= Query.parse

theorem Event.Carries.unique {e : Event} {t u : Text} (ht : e.Carries t) (hu : e.Carries u) :
    t = u := by
  cases ht with
  | plain plain body =>
      cases hu with
      | plain _ body' => exact Option.some.inj (body.symm.trans body')
      | encoded encoded => exact nomatch plain.symm.trans encoded
  | encoded encoded body bytes text =>
      cases hu with
      | plain plain => exact nomatch plain.symm.trans encoded
      | encoded _ body' bytes' text' =>
          cases body.symm.trans body'
          cases bytes.symm.trans bytes'
          exact Option.some.inj (text.symm.trans text')

/-! ## Decoding -/

theorem decodeBase64_ok {body t : Text} :
    decodeBase64 body = .ok t ↔
      ∃ bytes, Base64.decode? Base64.standard body = some bytes ∧ Utf8.decode? bytes = some t := by
  unfold decodeBase64
  cases foreign : unfitRun? CodePoint.isAscii 0 body with
  | some run =>
      simp only [reduceCtorEq, false_iff]
      rintro ⟨bytes, decoded, -⟩
      have ascii : unfitRun? CodePoint.isAscii 0 body = none :=
        unfitRun?_eq_none.mpr fun c mem => (Base64.decode?_standard decoded mem).1
      exact nomatch foreign.symm.trans ascii
  | none =>
      cases Base64.decode? Base64.standard body with
      | none => simp only [reduceCtorEq, false_and, exists_false]
      | some bytes =>
          simp only [Option.some.injEq, exists_eq_left']
          cases Utf8.decode? bytes with
          | none => simp only [reduceCtorEq]
          | some u => simp only [Except.ok.injEq, Option.some.injEq]

theorem decodeBody_ok {e : Event} {t : Text} : decodeBody e = .ok (some t) ↔ e.Carries t := by
  unfold decodeBody
  constructor
  · intro h
    split at h
    · rename_i body encoded present
      obtain ⟨u, decoded, same⟩ := Except.map_ok h
      cases same
      obtain ⟨bytes, decoded, text⟩ := decodeBase64_ok.mp decoded
      exact .encoded encoded present decoded text
    · rename_i body other
      cases encoded : e.isBase64 with
      | false => exact .plain encoded (Except.ok.inj h)
      | true => exact absurd (Except.ok.inj h) (other t encoded)
  · intro h
    cases h with
    | plain plain body => rw [plain, body]
    | encoded encoded body decoded text =>
        rw [encoded, body]
        show (decodeBase64 _).map some = _
        rw [decodeBase64_ok.mpr ⟨_, decoded, text⟩]
        rfl

theorem Query.parse_ok {body : Option Text} {q : Query} :
    Query.parse body = .ok q ↔
      ∃ t, body = some t ∧ isBlank t = false ∧ Query.ofJson t = .ok q := by
  unfold Query.parse
  cases body with
  | none => simp only [reduceCtorEq, false_and, exists_false]
  | some t =>
      simp only [Option.some.injEq, exists_eq_left']
      cases isBlank t with
      | true => simp only [if_true, reduceCtorEq, Bool.true_eq_false, false_and]
      | false =>
          simp only [Bool.false_eq_true, if_false, true_and]
          cases Query.ofJson t with
          | ok q' => simp only [Except.ok.injEq]
          | error x => simp only [reduceCtorEq]

/-! ## Malformed is what holds no query -/

theorem Arrival.query_ok {q : Query} :
    arrival.query = .ok q ↔ ∃ e t, arrival.read = .ok e ∧ e.Carries t ∧ isBlank t = false ∧
      Query.ofJson t = .ok q := by
  unfold Arrival.query
  cases arrival.read with
  | error x =>
      simp only [Except.mapError_error, Except.error_bind, reduceCtorEq, false_and, exists_false]
  | ok e =>
      simp only [Except.mapError_ok, Except.ok_bind, Except.ok.injEq, exists_and_left,
        exists_eq_left']
      constructor
      · intro h
        obtain ⟨body, decoded, parsed⟩ := Except.bind_ok h
        obtain ⟨t, rfl, nonblank, read⟩ := Query.parse_ok.mp parsed
        exact ⟨t, decodeBody_ok.mp decoded, nonblank, read⟩
      · rintro ⟨t, carries, nonblank, read⟩
        rw [decodeBody_ok.mpr carries, Except.ok_bind]
        exact Query.parse_ok.mpr ⟨t, rfl, nonblank, read⟩

/-- A body that is blank stands for a text that is blank, if it stands for one at all: among the
blanks there is no letter of base64. -/
theorem Event.Carries.blank {e : Event} {t body : Text} (h : e.Carries t)
    (present : e.body = some body) (blank : isBlank body = true) : isBlank t = true := by
  cases h with
  | plain _ body' =>
      cases present.symm.trans body'
      exact blank
  | encoded _ body' decoded text =>
      cases present.symm.trans body'
      cases body with
      | nil =>
          have empty : Utf8.decode? [] = some [] := Utf8.decode?_encode isScalar_nil
          cases decoded
          cases empty.symm.trans text
          rfl
      | cons c rest =>
          have letter := (Base64.decode?_standard decoded List.mem_cons_self).2
          have first := List.all_eq_true.mp blank c List.mem_cons_self
          exact nomatch letter.symm.trans first

theorem malformed_iff : Malformed arrival ↔ ∀ q, arrival.query ≠ .ok q := by
  constructor
  · intro malformed q h
    obtain ⟨e, t, read, carries, nonblank, query⟩ := Arrival.query_ok.mp h
    cases malformed with
    | noEvent rejected => exact nomatch read.symm.trans rejected
    | noBody read' missing =>
        cases read.symm.trans read'
        cases carries with
        | plain _ body => exact nomatch missing.symm.trans body
        | encoded _ body => exact nomatch missing.symm.trans body
    | blankBody read' present blank =>
        cases read.symm.trans read'
        exact nomatch nonblank.symm.trans (carries.blank present blank)
    | undecodable read' _ _ none =>
        cases read.symm.trans read'
        exact none t carries
    | blankText read' carries' blank =>
        cases read.symm.trans read'
        cases carries.unique carries'
        exact nomatch nonblank.symm.trans blank
    | noQuery read' carries' none =>
        cases read.symm.trans read'
        cases carries.unique carries'
        exact none q query
  · intro none
    cases read : arrival.read with
    | error x => exact .noEvent read
    | ok e =>
    cases present : e.body with
    | none => exact .noBody read present
    | some body =>
    by_cases carried : ∃ t, e.Carries t
    · obtain ⟨t, carries⟩ := carried
      cases blank : isBlank t with
      | true => exact .blankText read carries blank
      | false =>
          refine .noQuery read carries fun q query => none q ?_
          exact Arrival.query_ok.mpr ⟨e, t, read, carries, blank, query⟩
    · have uncarried : ∀ t, ¬ e.Carries t := fun t carries => carried ⟨t, carries⟩
      cases encoded : e.isBase64 with
      | false => exact absurd (.plain encoded present) (uncarried body)
      | true => exact .undecodable read encoded present uncarried

/-! ## What its failure is called -/

/-- How records name a failure: by its kind and by its class. -/
structure Classified (f : Failure) (kind : FailureKind) (className : Text) : Prop where
  kind : f.kind = .known kind
  className : f.className = className

theorem classified_own (cls : OwnClass) (message : Text) (details : Members) :
    Classified (.own cls message details) cls.kind cls.name :=
  ⟨rfl, rfl⟩

/-- The cause of a failure has no influence on what it is called. -/
theorem Classified.causedBy {f : Failure} {kind : FailureKind} {className : Text}
    (h : Classified f kind className) (cause : Failure) :
    Classified (f.causedBy cause) kind className :=
  ⟨h.kind, h.className⟩

/-- A malformed request, by the class that is meant for it. -/
abbrev IsMalformedRequest (f : Failure) : Prop :=
  Classified f .malformedRequest OwnClass.malformedRequest.name

theorem classified_parse {body : Option Text} {f : Failure} (h : Query.parse body = .error f) :
    IsMalformedRequest f := by
  unfold Query.parse at h
  split at h
  · cases h
    exact classified_own ..
  · split at h
    · cases h
      exact classified_own ..
    · split at h
      · cases h
      · cases h
        exact (classified_own ..).causedBy _

/-- Within ASCII every fault of base64 makes a malformed request; beyond it none does. -/
theorem classified_decodeBase64 {body : Text} {f : Failure} (h : decodeBase64 body = .error f) :
    ((∀ c ∈ body, c.isAscii = true) → IsMalformedRequest f) ∧
      ((∃ c ∈ body, c.isAscii = false) → Classified f .internal "ValueError") := by
  unfold decodeBase64 at h
  cases foreign : unfitRun? CodePoint.isAscii 0 body with
  | some run =>
      rw [foreign] at h
      cases h
      refine ⟨fun ascii => ?_, fun _ => ⟨rfl, rfl⟩⟩
      exact nomatch foreign.symm.trans (unfitRun?_eq_none.mpr ascii)
  | none =>
      rw [foreign] at h
      refine ⟨fun _ => ?_, ?_⟩
      · dsimp only at h
        split at h
        · cases h
          exact (classified_own ..).causedBy _
        · split at h
          · cases h
            exact (classified_own ..).causedBy _
          · cases h
      · rintro ⟨c, mem, beyond⟩
        exact nomatch beyond.symm.trans (unfitRun?_eq_none.mp foreign c mem)

theorem Arrival.query_classified {f : Failure} (h : arrival.query = .error f) :
    (¬ BeyondAscii arrival → IsMalformedRequest f) ∧
      (BeyondAscii arrival → Classified f .internal "ValueError") := by
  unfold Arrival.query at h
  cases read : arrival.read with
  | error x =>
      rw [read] at h
      cases h
      refine ⟨fun _ => (classified_own ..).causedBy _, ?_⟩
      rintro ⟨e, body, read', -⟩
      exact nomatch read.symm.trans read'
  | ok e =>
      rw [read] at h
      have h : (decodeBody e >>= Query.parse) = .error f := h
      rcases Except.bind_error h with undecoded | ⟨body, decoded, unparsed⟩
      · -- only a body in base64 can be undecodable
        unfold decodeBody at undecoded
        split at undecoded
        · rename_i body encoded present
          have classified := classified_decodeBase64 (Except.map_error undecoded)
          refine ⟨fun within => classified.1 fun c mem => ?_, fun beyond => classified.2 ?_⟩
          · rw [← Bool.not_eq_false]
            exact fun foreign => within ⟨e, body, read, encoded, present, c, mem, foreign⟩
          · obtain ⟨e', body', read', -, present', foreign⟩ := beyond
            cases read.symm.trans read'
            cases present.symm.trans present'
            exact foreign
        · cases undecoded
      · refine ⟨fun _ => classified_parse unparsed, ?_⟩
        rintro ⟨e', body', read', encoded, present, c, mem, foreign⟩
        cases read.symm.trans read'
        rw [decodeBody, encoded, present] at decoded
        obtain ⟨t, decoded, -⟩ := Except.map_ok decoded
        obtain ⟨bytes, letters, -⟩ := decodeBase64_ok.mp decoded
        exact nomatch foreign.symm.trans (Base64.decode?_standard letters mem).1

theorem Arrival.query_harmless {f : Failure} (h : arrival.query = .error f) : f.Harmless := by
  unfold Arrival.query at h
  cases read : arrival.read with
  | error x =>
      rw [read] at h
      cases h
      exact harmless_malformedEvent x
  | ok e =>
      rw [read] at h
      exact harmless_query h

/-! ## The refusal -/

/-- An invocation that cannot read a query ends right there. -/
theorem Passage.unread {id : Value} {c : Course} (p : Passage d arrival caches id c)
    {showCause : Bool} (opened : d.showFailureCause = .ok showCause) {f : Failure}
    (unread : arrival.query = .error f) :
    c.outcome = .error f ∧ c.run.trace = [.consulting .failureCause] ∧ c.run.built = none := by
  have noQuery (m : Understood d arrival) : False := by
    rw [Arrival.query, m.addressed] at unread
    exact nomatch m.understood.symm.trans unread
  cases p with
  | unopened g closed => exact nomatch opened.symm.trans closed
  | rejected m x rejected =>
      rw [Arrival.query, rejected] at unread
      cases unread
      exact ⟨rfl, rfl, rfl⟩
  | misunderstood m g misunderstood =>
      rw [Arrival.query, m.addressed] at unread
      cases misunderstood.symm.trans unread
      exact ⟨rfl, rfl, rfl⟩
  | refused m => exact (noQuery m).elim
  | unnoted m | unequipped m | undispatched m | startedBefore m | unstarted m | unperformed m
  | unwritten m | unanswered m | answered m => exact (noQuery m.toUnderstood).elim

/-- The records of errors in a trace. -/
def errors (trace : List Deed) : List Log.Record :=
  (trace.filterMap Deed.record?).filter fun r => r.level = Log.error

/-- The fields of a record that name a failure. -/
def namingFields (kind : FailureKind) (className : Text) : Members :=
  [("error_kind", .text kind.name), ("exception_type", .text className)]

/-- How an invocation ends that asks nobody about what arrived: with status 500, and a single record
of an error that names the failure. -/
structure Refused (d : Deployment) (v : Visit) (kind : FailureKind) (className : Text) : Prop where
  answered : ∃ body, v.ending = .answered ⟨500, Http.standardHeaders, body, false⟩ ∧
    (d.shows = false → body = internalServerError)
  recorded : ∃ r, errors v.run.trace = [r] ∧ r.context = namingFields kind className
  unasked : calls v.run.trace = [.consulting .failureCause]

theorem breakdownRecord_context {f : Failure} {kind : FailureKind} {className : Text}
    (h : Classified f kind className) (id : Value) :
    (breakdownRecord f id).context = namingFields kind className := by
  have fields : ([("error_kind", f.kind.value?.getD .null),
      ("exception_type", .text f.className)] : Members) = namingFields kind className := by
    rw [h.kind, h.className]
    rfl
  rw [← fields]
  cases id <;> rfl

theorem errors_evicted (c : Cache) : errors (c.evict.2.map .record) = [] := by
  rw [Cache.evict]
  split <;> rfl

/-- A harmless failure can be read. -/
theorem readable_harmless {f : Failure} (h : f.Harmless) :
    (f.isCancellation || (unreadable? f).isSome) = false := by
  have answerable := answerable_harmless h none
  rw [h.error, unreadable?_eq_none.mpr ⟨h.worded, answerable.named⟩]
  rfl

theorem conclude_harmless {f : Failure} (h : f.Harmless) (room : Json.Room) (showCause : Bool) :
    ∃ body, conclude room showCause (.error f) =
        .answered ⟨500, Http.standardHeaders, body, false⟩ ∧
      (showCause = false → body = internalServerError) := by
  have answerable := answerable_harmless h room
  have readable := unreadable?_eq_none.mpr ⟨h.worded, answerable.named⟩
  refine ⟨(breakdownResponse f showCause).body, ?_, fun hidden => ?_⟩
  · rw [conclude, h.error, readable, failureResponse, h.noDenial]
    rfl
  · rw [hidden]
    rfl

theorem outcomeRecord?_harmless {f : Failure} (h : f.Harmless) (id : Value) :
    outcomeRecord? (.error f) id = some (breakdownRecord f id) := by
  rw [outcomeRecord?, readable_harmless h, failureRecord, h.noDenial]
  rfl

variable (caches) in
/-- All that an invocation does that cannot read a query, but for the records of the cache. -/
theorem handle_unread {showCause : Bool} (opened : d.showFailureCause = .ok showCause)
    {f : Failure} (unread : arrival.query = .error f) (requestId : Value) (fresh : Text) :
    ∃ id c, (handle d arrival requestId fresh caches).run.trace =
      [.consulting .failureCause, .record (breakdownRecord f id)] ++
        (Cache.evict c).2.map .record := by
  let c := course d arrival (initialId requestId fresh) caches
  have passage : Passage d arrival caches (initialId requestId fresh) c :=
    course_passage d arrival caches _
  obtain ⟨outcome, trace, built⟩ := passage.unread opened unread
  have whole : (handle d arrival requestId fresh caches).run.trace =
      c.run.trace ++ (closingRecords d c.outcome c.run).map .record :=
    handle_trace ..
  have kept : droppedRecord? d c.run = none := by
    rw [droppedRecord?, built]
    rfl
  refine ⟨c.run.correlationId, c.run.caches d.cache, ?_⟩
  rw [whole, trace, closingRecords, outcome,
    outcomeRecord?_harmless (Arrival.query_harmless unread), kept]
  rfl

variable (caches) in
theorem refused_of_unread {showCause : Bool} (opened : d.showFailureCause = .ok showCause)
    {f : Failure} (unread : arrival.query = .error f) {kind : FailureKind} {className : Text}
    (classified : Classified f kind className) (requestId : Value) (fresh : Text) :
    Refused d (handle d arrival requestId fresh caches) kind className := by
  have harmless := Arrival.query_harmless unread
  obtain ⟨id, c, trace⟩ := handle_unread caches opened unread requestId fresh
  refine ⟨?_, ⟨breakdownRecord f id, ?_, breakdownRecord_context classified id⟩, ?_⟩
  · have passage := course_passage d arrival caches (initialId requestId fresh)
    rw [handle_ending, ← passage.outcome_eq, (passage.unread opened unread).1]
    exact conclude_harmless harmless (denialRoom d.room) d.shows
  · rw [trace, errors, List.filterMap_append, List.filter_append]
    exact congrArg ([breakdownRecord f id] ++ ·) (errors_evicted c)
  · rw [trace, calls_records]
    rfl

/-- Whatever is wrong with an arrival, it is refused before anybody is asked about it. It is called
malformed unless it is a body in base64 beyond ASCII, and then it never is. -/
theorem malformed_refused {showCause : Bool} (opened : d.showFailureCause = .ok showCause)
    (malformed : Malformed arrival) (requestId : Value) (fresh : Text) :
    let v := handle d arrival requestId fresh caches
    (¬ BeyondAscii arrival → Refused d v .malformedRequest OwnClass.malformedRequest.name) ∧
      (BeyondAscii arrival → Refused d v .internal "ValueError") := by
  intro v
  cases unread : arrival.query with
  | ok q => exact absurd unread (malformed_iff.mp malformed q)
  | error f =>
      obtain ⟨within, beyond⟩ := Arrival.query_classified unread
      exact ⟨fun h => refused_of_unread caches opened unread (within h) requestId fresh,
        fun h => refused_of_unread caches opened unread (beyond h) requestId fresh⟩

open Rehearsal in
/-- An event whose body is in base64 and stands for a text without a query. -/
def querylessEvent : Event := { helloEvent with body := some "e30=", isBase64 := true }

open Rehearsal in
theorem malformed_refused_queryless :
    Malformed (.event querylessEvent) ∧ ¬ BeyondAscii (.event querylessEvent) ∧
      Refused (cachingDeployment none)
        (handle (cachingDeployment none) (.event querylessEvent) .null "id" Caches.empty)
        .malformedRequest OwnClass.malformedRequest.name := by
  have malformed : Malformed (.event querylessEvent) := by
    refine malformed_iff.mpr fun q read => ?_
    have unread : (Arrival.query (.event querylessEvent)).isOk = false := by decide +kernel
    rw [read] at unread
    cases unread
  have within : ¬ BeyondAscii (.event querylessEvent) := by
    rintro ⟨e, body, read, -, present, c, mem, foreign⟩
    have ascii : ("e30=" : Text).all CodePoint.isAscii = true := by decide
    cases read
    cases present
    exact nomatch foreign.symm.trans (List.all_eq_true.mp ascii c mem)
  have opened : (cachingDeployment none).showFailureCause = .ok true := rfl
  exact ⟨malformed, within, (malformed_refused opened malformed .null "id").1 within⟩

/-! ## Base64 beyond ASCII -/

/-- A body in base64 beyond ASCII stands for nothing. -/
theorem BeyondAscii.malformed (h : BeyondAscii arrival) : Malformed arrival := by
  obtain ⟨e, body, read, encoded, present, c, mem, foreign⟩ := h
  refine .undecodable read encoded present fun t carries => ?_
  cases carries with
  | plain plain => exact nomatch plain.symm.trans encoded
  | encoded _ present' decoded =>
      cases present.symm.trans present'
      exact nomatch foreign.symm.trans (Base64.decode?_standard decoded mem).1

/-- One invocation is refused under one name. -/
theorem Refused.kind_eq {v : Visit} {k k' : FailureKind} {n n' : Text} (h : Refused d v k n)
    (h' : Refused d v k' n') : k.name = k'.name := by
  obtain ⟨r, recorded, context⟩ := h.recorded
  obtain ⟨r', recorded', context'⟩ := h'.recorded
  cases recorded.symm.trans recorded'
  have fields := context.symm.trans context'
  injection fields with first
  injection first with _ name
  injection name

open Rehearsal in
/-- An event whose body is marked as base64 and is an accented letter. -/
def accentedEvent : Event := { helloEvent with body := some "é", isBase64 := true }

open Rehearsal in
/-- Such an event is malformed, and no record says so. -/
theorem accentedEvent_unnamed :
    Malformed (.event accentedEvent) ∧
      ¬ Refused (cachingDeployment none)
        (handle (cachingDeployment none) (.event accentedEvent) .null "id" Caches.empty)
        .malformedRequest OwnClass.malformedRequest.name := by
  have beyond : BeyondAscii (.event accentedEvent) :=
    ⟨accentedEvent, "é", rfl, rfl, rfl, CodePoint.ofChar 'é', by decide, by decide⟩
  refine ⟨beyond.malformed, fun named => ?_⟩
  cases unread : Arrival.query (.event accentedEvent) with
  | ok q => exact malformed_iff.mp beyond.malformed q unread
  | error f =>
      have opened : (cachingDeployment none).showFailureCause = .ok true := rfl
      have internal := refused_of_unread Caches.empty opened unread
        ((Arrival.query_classified unread).2 beyond) .null "id"
      have other : FailureKind.malformedRequest.name ≠ FailureKind.internal.name := by decide
      exact other (named.kind_eq internal)

end Invocation

end QueryGateway
