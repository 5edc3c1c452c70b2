import QueryGateway.Proofs.Invocation.Records
import QueryGateway.Proofs.Rehearsal.Plan

/-!
# The three shapes of a response

A response is that of a query that was executed (`Served`), that of a denial (`Denied`), or that of
any other failure (`Broken`), and never two of these. The shape fixes the status, the headers and
whether the body is in base64; it fixes the body of a denial by the message and the code alone, and
the body of any other failure by its report or, unless the deployment had already said that failures
are shown, by nothing at all.

Each shape comes with one record of its own. An invocation has no other record of an outcome, but
the validator is free to leave records that look like one: these are the `remarks`.
-/

namespace QueryGateway.Invocation

variable {d : Deployment} {arrival : Arrival} {caches : Caches}

/-! ## Records of outcomes -/

/-- Whether a record tells how an invocation came out. -/
def isOutcome (r : Log.Record) : Bool :=
  (r.level = Log.debug && r.message = "Query executed") ||
    (r.level = Log.warning && r.message = "Access denied") ||
    (r.level = Log.error && Text.startsWith r.message "Failed to invoke graph")

@[simp] theorem isOutcome_executed (id : Value) (q : Query) (result : Result) :
    isOutcome (executedRecord id q result) = true := rfl

@[simp] theorem isOutcome_denial (f : Failure) (id : Value) :
    isOutcome (denialRecord f id) = true := rfl

@[simp] theorem isOutcome_breakdown (f : Failure) (id : Value) :
    isOutcome (breakdownRecord f id) = true := rfl

@[simp] theorem isOutcome_access (id : Value) (q : Query) (shown : Text) :
    isOutcome (accessRecord id q shown) = false := rfl

@[simp] theorem isOutcome_dropped (d : Deployment) (r : Run) :
    isOutcome (droppedRecord d r) = false := rfl

@[simp] theorem isOutcome_evicted (n : Nat) :
    isOutcome (Cache.evictedRecord n) = false := rfl

/-- The records of outcomes in a trace. -/
def outcomes (trace : List Deed) : List Log.Record :=
  (trace.filterMap Deed.record?).filter isOutcome

variable (d arrival caches) in
/-- The records of outcomes that the validator leaves, if it is asked. -/
def remarks : List Log.Record :=
  match d.showFailureCause, arrival.read with
  | .ok _, .ok event =>
    match decodeBody event >>= Query.parse with
    | .ok _ => (d.validate (credentials event) caches).2.2.filter isOutcome
    | .error _ => []
  | _, _ => []

theorem remarks_eq : remarks d arrival caches = (said d arrival caches).filter isOutcome := by
  rw [remarks, said]
  cases d.showFailureCause with
  | error f => rfl
  | ok showCause =>
      cases arrival.read with
      | error x => rfl
      | ok event =>
          simp only
          cases decodeBody event >>= Query.parse <;> rfl

theorem Noted.access_outcomes (m : Noted d arrival caches) (id : Value) :
    (m.access id).filter isOutcome = [] := by
  rw [access]
  cases m.shown with
  | none => rfl
  | some shown => simp

/-- An invocation that failed has left no record of an outcome when its outcome is known. -/
theorem Passage.outcomes_error {id : Value} {c : Course} (p : Passage d arrival caches id c)
    {f : Failure} (h : c.outcome = .error f) :
    outcomes c.run.trace = remarks d arrival caches := by
  show (recordsOf c.run.trace).filter isOutcome = _
  rw [remarks_eq]
  rcases p.records_error h with records | ⟨m, records⟩
  · rw [records]
  · rw [records, List.filter_append, m.access_outcomes, List.append_nil]

/-- An invocation that succeeded has recorded so, once. -/
theorem Passage.outcomes_ok {id : Value} {c : Course} (p : Passage d arrival caches id c)
    {response : Response} (h : c.outcome = .ok response) :
    ∃ m : Written d arrival caches, m.response = .ok response ∧
      outcomes c.run.trace =
        remarks d arrival caches ++ [executedRecord (idOf id m.event) m.query m.result] := by
  obtain ⟨m, made, records⟩ := p.records_ok h
  refine ⟨m, made, ?_⟩
  show (recordsOf c.run.trace).filter isOutcome = _
  rw [remarks_eq, records, List.filter_append, List.filter_append, m.access_outcomes,
    List.append_nil, List.filter_cons_of_pos (isOutcome_executed ..), List.filter_nil]

theorem outcomes_closing (d : Deployment) (o : Except Failure Response) (r : Run) :
    (closingRecords d o r).filter isOutcome = (outcomeRecord? o r.correlationId).toList := by
  have settled : (outcomeRecord? o r.correlationId).toList.filter isOutcome =
      (outcomeRecord? o r.correlationId).toList := by
    cases o with
    | ok response => rfl
    | error f =>
        rw [outcomeRecord?, failureRecord]
        split
        · rfl
        · split <;> simp
  have dropped : (droppedRecord? d r).toList.filter isOutcome = [] := by
    rw [droppedRecord?]
    cases r.built with
    | none => rfl
    | some b =>
        rw [Option.bind_some]
        split <;> simp
  have evicted : (r.caches d.cache).evict.2.filter isOutcome = [] := by
    rw [Cache.evict]
    split <;> simp
  rw [closingRecords, List.filter_append, List.filter_append, settled, dropped, evicted,
    List.append_nil, List.append_nil]

/-! ## The three shapes -/

/-- What the headers of a compressed response have beside the standard ones. -/
def gzipHeaders : Http.Headers := [("Content-Encoding", "gzip")]

/-- The response to a query that was executed: compressed if the deployment and the client want it,
and marked so in both places. -/
structure Served (d : Deployment) (arrival : Arrival) (caches : Caches) (c : Course)
    (trace : List Deed) (response : Response) : Prop where
  outcome : c.outcome = .ok response
  status : response.status = 200
  headers : response.headers =
    Http.standardHeaders ++ (if response.isBase64 then gzipHeaders else [])
  compressed : ∃ event, arrival.read = .ok event ∧
    (response.isBase64 = true ↔
      d.enableCompression = .ok true ∧ Http.AcceptEncoding.acceptsGzip event.headers = true)
  recorded : ∃ id query result,
    outcomes trace = remarks d arrival caches ++ [executedRecord id query result]

/-- The response to a denial. Its body is made of the message and the code of the failure. -/
structure Denied (d : Deployment) (arrival : Arrival) (caches : Caches) (c : Course)
    (trace : List Deed) (response : Response) (f : Failure) : Prop where
  outcome : c.outcome = .error f
  denial : f.kind.isDenial = true
  status : response.status = 200
  headers : response.headers = Http.standardHeaders
  plain : response.isBase64 = false
  body : ∃ document, denialDocument f = .ok document ∧
    dumpDocument (denialRoom d.room) document = .ok response.body
  recorded : outcomes trace = remarks d arrival caches ++ [denialRecord f c.run.correlationId]

/-- The response to any other failure. It tells nothing, unless the deployment had already said that
failures are shown. -/
structure Broken (d : Deployment) (arrival : Arrival) (caches : Caches) (c : Course)
    (trace : List Deed) (response : Response) (f : Failure) : Prop where
  outcome : c.outcome = .error f
  noDenial : f.kind.isDenial = false
  status : response.status = 500
  headers : response.headers = Http.standardHeaders
  plain : response.isBase64 = false
  shown : d.showFailureCause = .ok true → response.body = f.report
  hidden : d.showFailureCause ≠ .ok true → response.body = internalServerError
  recorded : outcomes trace = remarks d arrival caches ++ [breakdownRecord f c.run.correlationId]

theorem responseHeaders_eq (compressed : Bool) :
    Http.responseHeaders compressed =
      Http.standardHeaders ++ (if compressed then gzipHeaders else []) := by
  cases compressed <;> decide

section ResponseTo
variable (headers : Http.Headers) (body : Text) (compress : Bool)

theorem isBase64_responseTo : (responseTo headers body compress).isBase64 =
    (compress && Http.AcceptEncoding.acceptsGzip headers) := by
  unfold responseTo
  cases compress && Http.AcceptEncoding.acceptsGzip headers <;> rfl

theorem status_responseTo : (responseTo headers body compress).status = 200 := by
  unfold responseTo
  split <;> rfl

theorem headers_responseTo : (responseTo headers body compress).headers =
    Http.standardHeaders ++
      (if (responseTo headers body compress).isBase64 then gzipHeaders else []) := by
  unfold responseTo
  split
  · exact responseHeaders_eq true
  · exact responseHeaders_eq false

end ResponseTo

theorem Written.served (m : Written d arrival caches) {response : Response}
    (h : m.response = .ok response) {c : Course} (outcome : c.outcome = .ok response)
    {trace : List Deed} {id : Value}
    (recorded : outcomes trace =
      remarks d arrival caches ++ [executedRecord id m.query m.result]) :
    Served d arrival caches c trace response := by
  rw [Written.response] at h
  cases switch : d.enableCompression with
  | error f =>
      rw [switch] at h
      cases h
  | ok compress =>
      rw [switch] at h
      cases h
      have marked : (responseTo m.event.headers m.body compress).isBase64 =
          (compress && Http.AcceptEncoding.acceptsGzip m.event.headers) := isBase64_responseTo ..
      refine ⟨outcome, status_responseTo .., headers_responseTo .., ⟨m.event, m.addressed, ?_⟩, _,
        _, _, recorded⟩
      rw [marked, switch, Except.ok.injEq, Bool.and_eq_true]

theorem denialResponse_ok {room : Json.Room} {f : Failure} {response : Response}
    (h : denialResponse room f = .ok response) :
    ∃ document body, denialDocument f = .ok document ∧ dumpDocument room document = .ok body ∧
      response = .plain 200 body := by
  obtain ⟨document, documented, h⟩ := Except.bind_ok h
  obtain ⟨body, written, h⟩ := Except.bind_ok h
  cases h
  exact ⟨document, body, documented, written, rfl⟩

theorem denied_of_response {c : Course} {f : Failure} (outcome : c.outcome = .error f)
    (denial : f.kind.isDenial = true) {response : Response} {trace : List Deed}
    (made : denialResponse (denialRoom d.room) f = .ok response)
    (recorded : outcomes trace =
      remarks d arrival caches ++ [denialRecord f c.run.correlationId]) :
    Denied d arrival caches c trace response f := by
  obtain ⟨document, body, documented, written, rfl⟩ := denialResponse_ok made
  exact ⟨outcome, denial, rfl, rfl, rfl, ⟨document, documented, written⟩, recorded⟩

theorem broken_of_response {c : Course} {f : Failure} (outcome : c.outcome = .error f)
    (noDenial : f.kind.isDenial = false) {response : Response} {trace : List Deed}
    (made : breakdownResponse f d.shows = response)
    (recorded : outcomes trace =
      remarks d arrival caches ++ [breakdownRecord f c.run.correlationId]) :
    Broken d arrival caches c trace response f := by
  subst made
  refine ⟨outcome, noDenial, rfl, rfl, rfl, ?_, ?_, recorded⟩
  · intro on
    rw [Deployment.shows, on]
    rfl
  · intro off
    have hidden : d.shows = false := by
      rw [Deployment.shows]
      cases switch : d.showFailureCause with
      | error g => rfl
      | ok showCause =>
          cases showCause with
          | false => rfl
          | true => exact absurd switch off
    rw [hidden]
    rfl

/-! ## Every answer has one of them -/

section Answers
variable {c : Course} {trace : List Deed} {response : Response} {f g : Failure}

theorem Served.not_denied (s : Served d arrival caches c trace response) :
    ¬ Denied d arrival caches c trace response f :=
  fun denied => nomatch s.outcome.symm.trans denied.outcome

theorem Served.not_broken (s : Served d arrival caches c trace response) :
    ¬ Broken d arrival caches c trace response f :=
  fun broken => nomatch s.outcome.symm.trans broken.outcome

theorem Denied.not_broken (s : Denied d arrival caches c trace response f) :
    ¬ Broken d arrival caches c trace response g := by
  intro broken
  cases s.outcome.symm.trans broken.outcome
  exact nomatch s.denial.symm.trans broken.noDenial

/-- A failure that is not shown leaves one and the same response. -/
theorem Broken.response_eq (s : Broken d arrival caches c trace response f)
    (off : d.showFailureCause ≠ .ok true) :
    response = ⟨500, Http.standardHeaders, internalServerError, false⟩ := by
  have body := s.hidden off
  obtain ⟨status, headers, content, isBase64⟩ := response
  cases s.status
  cases s.headers
  cases s.plain
  cases body
  rfl

end Answers

/-- Every response has exactly one of the three shapes, and if failures are not shown, all responses
to failures but denials are the same. -/
theorem response_shape {requestId : Value} {fresh : Text} {response : Response}
    (answered : (handle d arrival requestId fresh caches).ending = .answered response) :
    let c := course d arrival (initialId requestId fresh) caches
    let trace := (handle d arrival requestId fresh caches).run.trace
    (Served d arrival caches c trace response ∧
        (∀ f, ¬ Denied d arrival caches c trace response f) ∧
        ∀ f, ¬ Broken d arrival caches c trace response f) ∨
      (∃ f, Denied d arrival caches c trace response f ∧
        ¬ Served d arrival caches c trace response ∧
        ∀ g, ¬ Broken d arrival caches c trace response g) ∨
      ∃ f, Broken d arrival caches c trace response f ∧
        ¬ Served d arrival caches c trace response ∧
        (∀ g, ¬ Denied d arrival caches c trace response g) ∧
        (d.showFailureCause ≠ .ok true →
          response = ⟨500, Http.standardHeaders, internalServerError, false⟩) := by
  intro c trace
  have passage : Passage d arrival caches (initialId requestId fresh) c :=
    course_passage d arrival caches _
  have recorded : outcomes trace = outcomes c.run.trace ++
      (outcomeRecord? c.outcome c.run.correlationId).toList := by
    rw [← outcomes_closing d]
    show (recordsOf trace).filter isOutcome = _
    rw [handle_records, List.filter_append]
    rfl
  rw [handle_ending, ← passage.outcome_eq] at answered
  cases outcome : c.outcome with
  | ok r =>
      rw [outcome] at answered recorded
      cases answered
      obtain ⟨m, made, executed⟩ := passage.outcomes_ok outcome
      rw [executed] at recorded
      have served := m.served made outcome (recorded.trans (List.append_nil _))
      exact .inl ⟨served, fun _ => served.not_denied, fun _ => served.not_broken⟩
  | error f =>
      rw [outcome] at answered recorded
      obtain ⟨readable, made⟩ := conclude_answered answered
      rw [passage.outcomes_error outcome, outcomeRecord?, readable, if_neg Bool.false_ne_true]
        at recorded
      rw [failureResponse] at made
      rw [failureRecord] at recorded
      cases denial : f.kind.isDenial with
      | true =>
          rw [denial] at made recorded
          have denied := denied_of_response outcome denial made recorded
          exact .inr (.inl ⟨f, denied, fun served => served.not_denied denied,
            fun _ => denied.not_broken⟩)
      | false =>
          rw [denial] at made recorded
          have broken := broken_of_response outcome denial (Except.ok.inj made) recorded
          exact .inr (.inr ⟨f, broken, fun served => served.not_broken broken,
            fun _ denied => denied.not_broken broken, broken.response_eq⟩)

open Rehearsal in
/-- A rehearsal whose hook fails, and that shows failures, answers with the report. -/
theorem response_shape_failingHook :
    let d := cachingDeployment (some (.plain "RuntimeError" "boom"))
    let v := handle d (.event helloEvent) .null "id" Caches.empty
    let response : Response := ⟨500, Http.standardHeaders,
      "Traceback (most recent call last):\nRuntimeError: boom\n", false⟩
    v.ending = .answered response ∧
      ∃ f, Broken d (.event helloEvent) Caches.empty
        (course d (.event helloEvent) (.text "id") Caches.empty) v.run.trace response f := by
  have answered : (handle (cachingDeployment (some (.plain "RuntimeError" "boom")))
      (.event helloEvent) .null "id" Caches.empty).ending = .answered ⟨500, Http.standardHeaders,
        "Traceback (most recent call last):\nRuntimeError: boom\n", false⟩ :=
    Ending.response?_eq_some (by decide +kernel)
  have other : (500 : Int) ≠ 200 := by decide
  refine ⟨answered, ?_⟩
  rcases response_shape answered with ⟨served, -⟩ | ⟨f, denied, -⟩ | ⟨f, broken, -⟩
  · exact absurd served.status other
  · exact absurd denied.status other
  · exact ⟨f, broken⟩

end QueryGateway.Invocation
