import QueryGateway.Proofs.Invocation.Malformed

/-!
# Whose failure it is

The validator and the execution may fail with anything. One of the gateway's own failures passes: the
invocation ends with it, and it is answered and recorded as what it says it is. Every other failure
is wrapped, and then the invocation ends with the wrapper. That is of the class that is kept for the
stage, names the class of the failure behind it, and has that failure as its cause (`Wraps`).

So nobody passes for a denial who is none. What a foreign failure says of itself, and what led to it,
is behind the wrapper, and only what is outermost counts: two failures of the same origin are
answered alike, and recorded alike but for the report (`takenAlike_of_origin`).

What is NOT here: failures of other stages. They are not wrapped, and one that claims to be a denial is
answered as one. A cancellation is no error and is not wrapped either.
-/

namespace QueryGateway

namespace Failure

/-- The failure is of one of the gateway's own classes, as this class words it, and another failure is
its cause. -/
structure Wraps (g : Failure) (cls : OwnClass) (f : Failure) : Prop where
  origin : g.origin = .own ⟨cls, cls.defaultMessage, cls.kind, cls.code,
    Value.object [("exception_type", .text f.className)]⟩
  cause : g.cause? = some f

theorem Wraps.kind_eq {g f : Failure} {cls : OwnClass} (h : Wraps g cls f) :
    g.kind = .known cls.kind := by
  rw [kind, h.origin]

theorem Wraps.className_eq {g f : Failure} {cls : OwnClass} (h : Wraps g cls f) :
    g.className = cls.name := by
  rw [className, h.origin]

theorem own_of_isOwn {f : Failure} (h : f.isOwn = true) : ∃ o, f.origin = .own o := by
  unfold isOwn at h
  split at h
  · rename_i o origin
    exact ⟨o, origin⟩
  · cases h

end Failure

namespace Invocation

variable {d : Deployment} {arrival : Arrival} {caches : Caches} {f g : Failure} {cls : OwnClass}

/-! ## Wrapping -/

theorem attributed_own (h : f.isOwn = true) : attributed cls f = f := by
  rw [attributed, h]
  rfl

theorem attributed_wraps (foreign : f.isOwn = false) (error : f.isCancellation = false) :
    (attributed cls f).Wraps cls f := by
  rw [attributed, foreign, error]
  exact ⟨rfl, rfl⟩

/-- One of the gateway's own failures has a message and a code, and both are texts. -/
theorem answerable_own (h : f.isOwn = true) {room : Json.Room}
    (roomy : Json.within room 4 = true) : f.Answerable room := by
  obtain ⟨o, origin⟩ := Failure.own_of_isOwn h
  refine ⟨?_, ?_, ?_, fun _ => ⟨.text o.message, .text o.code, ?_, ?_, ?_, ?_, ?_⟩⟩
  · rw [Failure.isCancellation, origin]
  · rw [Failure.muteness?, origin]
  · rw [Failure.kind, origin]
    rfl
  · rw [messageOf?, origin]
  · rw [codeOf?, origin]
  · rw [Failure.denialWording]
    split <;> exact Json.writable_text _
  · exact Json.writable_text _
  · rw [Failure.denialWording]
    split <;> exact roomy

/-! ## What led to a failure does not count -/

/-- A record without the report of its failure. -/
def withoutReport (r : Log.Record) : Log.Record := { r with failure := none }

/-- Two failures are taken for the same: answered alike if failures are not shown, and recorded alike
but for the report. -/
structure TakenAlike (f g : Failure) : Prop where
  kind : f.kind = g.kind
  answer : ∀ room, failureResponse room f false = failureResponse room g false
  record : ∀ id, withoutReport (failureRecord f id) = withoutReport (failureRecord g id)

theorem takenAlike_of_origin (h : f.origin = g.origin) : TakenAlike f g := by
  obtain ⟨o, c, x, s, r⟩ := f
  obtain ⟨o', c', x', s', r'⟩ := g
  cases h
  have kind : (Failure.make o c x s r).kind = (Failure.make o c' x' s' r').kind := rfl
  refine ⟨kind, fun room => rfl, fun id => ?_⟩
  rw [failureRecord, failureRecord, kind]
  cases (Failure.make o c' x' s' r').kind.isDenial with
  | true => rfl
  | false => cases id <;> rfl

/-! ## How the invocation ends -/

variable (d arrival caches) in
/-- A failure with which one of the two stages ends, and the class that is kept for that stage. -/
inductive RaisedBy : OwnClass → Failure → Prop
  | validator (m : Understood d arrival) {f : Failure} :
      (d.validate (credentials m.event) caches).1 = .error f →
      RaisedBy .validationInfrastructure f
  | execution (m : Started d arrival caches) {f : Failure} :
      (m.execution.run m.hook.2).1 = .error f → RaisedBy .executionFailure f

variable (d arrival caches) in
/-- The invocation is taken to have failed with this failure: it is the outcome, and it is answered
and recorded as what it says it is, whatever led to it. -/
structure TakenFor (requestId : Value) (fresh : Text) (f : Failure) : Prop where
  outcome : (course d arrival (initialId requestId fresh) caches).outcome = .error f
  denied : f.kind.isDenial = true → ∃ response,
    (handle d arrival requestId fresh caches).ending = .answered response ∧
      Denied d arrival caches (course d arrival (initialId requestId fresh) caches)
        (handle d arrival requestId fresh caches).run.trace response f
  broken : f.kind.isDenial = false → ∃ response,
    (handle d arrival requestId fresh caches).ending = .answered response ∧
      Broken d arrival caches (course d arrival (initialId requestId fresh) caches)
        (handle d arrival requestId fresh caches).run.trace response f
  silent : f.kind.isDenial = false → d.shows = false →
    (handle d arrival requestId fresh caches).ending =
      .answered ⟨500, Http.standardHeaders, internalServerError, false⟩
  outermost : ∀ g : Failure, g.origin = f.origin → TakenAlike g f

variable (d arrival caches) in
/-- The failure of a stage is laid at its door: one of the gateway's own passes, and every other one is
wrapped as a failure of that stage. With the wrapper the caller is never told of a denial, and the
one record of an outcome names the stage. -/
structure LaidAt (requestId : Value) (fresh : Text) (cls : OwnClass) (f : Failure) : Prop where
  own : f.isOwn = true → TakenFor d arrival caches requestId fresh f
  foreign : f.isOwn = false → ∃ g : Failure, g.Wraps cls f ∧
    TakenFor d arrival caches requestId fresh g ∧ g.kind.isDenial = false ∧
    ∃ record : Log.Record, record.level = Log.error ∧
      record.context = namingFields cls.kind cls.name ∧
      outcomes (handle d arrival requestId fresh caches).run.trace =
        remarks d arrival caches ++ [record]

theorem RaisedBy.blamed (h : RaisedBy d arrival caches cls f) :
    Blamed d arrival caches (attributed cls f) := by
  cases h with
  | validator m raised => exact .validator m raised
  | execution m raised => exact .execution m raised

theorem RaisedBy.kind_ne (h : RaisedBy d arrival caches cls f) : cls.kind ≠ .accessDenied := by
  cases h with
  | validator | execution => decide

theorem breakdownRecord_level (f : Failure) (id : Value) :
    (breakdownRecord f id).level = Log.error := by
  cases id <;> rfl

section Endings
variable {requestId : Value} {fresh : Text}

theorem Blamed.outcome_eq (b : Blamed d arrival caches f) (id : Value) :
    (course d arrival id caches).outcome = .error f := by
  obtain ⟨c, passage, outcome⟩ := b.passage id
  rw [course_outcome, ← passage.outcome_eq, outcome]

/-- An answer to a failure has the shape that the kind of the failure asks for. -/
theorem shape_of_answered
    (outcome : (course d arrival (initialId requestId fresh) caches).outcome = .error f)
    {response : Response}
    (answered : (handle d arrival requestId fresh caches).ending = .answered response) :
    (f.kind.isDenial = true →
      Denied d arrival caches (course d arrival (initialId requestId fresh) caches)
        (handle d arrival requestId fresh caches).run.trace response f) ∧
    (f.kind.isDenial = false →
      Broken d arrival caches (course d arrival (initialId requestId fresh) caches)
        (handle d arrival requestId fresh caches).run.trace response f) := by
  have passage := course_passage d arrival caches (initialId requestId fresh)
  rw [handle_ending, ← passage.outcome_eq, outcome] at answered
  obtain ⟨readable, made⟩ := conclude_answered answered
  have recorded : outcomes (handle d arrival requestId fresh caches).run.trace =
      remarks d arrival caches ++
        [failureRecord f (course d arrival (initialId requestId fresh) caches).run.correlationId] := by
    show (recordsOf _).filter isOutcome = _
    rw [handle_records, List.filter_append, outcomes_closing, outcome, outcomeRecord?, readable,
      if_neg Bool.false_ne_true]
    exact congrArg (· ++ _) (passage.outcomes_error outcome)
  rw [failureResponse] at made
  rw [failureRecord] at recorded
  constructor
  · intro denial
    rw [denial] at made recorded
    exact denied_of_response outcome denial made recorded
  · intro noDenial
    rw [noDenial] at made recorded
    exact broken_of_response outcome noDenial (Except.ok.inj made) recorded

theorem Blamed.takenFor (b : Blamed d arrival caches f)
    (answerable : f.Answerable (denialRoom d.room)) :
    TakenFor d arrival caches requestId fresh f := by
  have outcome := b.outcome_eq (initialId requestId fresh)
  obtain ⟨response, answered⟩ : ∃ response,
      (handle d arrival requestId fresh caches).ending = .answered response := by
    rw [handle_ending, ← course_outcome (initialId requestId fresh), outcome]
    exact answerable_iff.mpr answerable
  obtain ⟨denied, broken⟩ := shape_of_answered outcome answered
  refine ⟨outcome, fun denial => ⟨response, answered, denied denial⟩,
    fun noDenial => ⟨response, answered, broken noDenial⟩, fun noDenial hidden => ?_,
    fun g => takenAlike_of_origin⟩
  have unshown : d.showFailureCause ≠ .ok true := by
    intro shown
    rw [Deployment.shows, shown] at hidden
    cases hidden
  rw [answered, (broken noDenial).response_eq unshown]

/-- With the wrapper of a foreign failure the caller is never told of a denial. -/
theorem RaisedBy.wrapper_noDenial (raised : RaisedBy d arrival caches cls f)
    (wraps : g.Wraps cls f) : g.kind.isDenial = false := by
  rw [wraps.kind_eq]
  cases raised with
  | validator | execution => rfl

/-- Whatever the validator or the execution raises, and whatever that says of itself and was led to
by, it is laid at the door of its stage. -/
theorem failures_attributed (raised : RaisedBy d arrival caches cls f)
    (error : f.isCancellation = false) (requestId : Value) (fresh : Text) :
    LaidAt d arrival caches requestId fresh cls f := by
  constructor
  · intro own
    have blamed := raised.blamed
    rw [attributed_own own] at blamed
    exact blamed.takenFor (answerable_own own d.roomy)
  · intro foreign
    have wraps : (attributed cls f).Wraps cls f := attributed_wraps foreign error
    have noDenial := raised.wrapper_noDenial wraps
    have unwrapped : (f.isOwn || f.isCancellation) = false := by
      rw [foreign, error]
      rfl
    have taken : TakenFor d arrival caches requestId fresh (attributed cls f) :=
      raised.blamed.takenFor (attributed_answerable raised.kind_ne unwrapped _)
    let id := (course d arrival (initialId requestId fresh) caches).run.correlationId
    obtain ⟨response, -, broken⟩ := taken.broken noDenial
    refine ⟨attributed cls f, wraps, taken, noDenial, breakdownRecord (attributed cls f) id,
      breakdownRecord_level _ _, ?_, broken.recorded⟩
    exact breakdownRecord_context ⟨wraps.kind_eq, wraps.className_eq⟩ id

end Endings

/-! ## A denial that is none -/

open Rehearsal in
/-- A failure that calls itself a denial and was led to by one. -/
def forgedDenial : Failure :=
  (Failure.of (.foreign (.plain "TaggedError") [.text "no tenant"]
    { kind := some (.known .accessDenied) })).causedBy (.standard .accessDenied [])

open Rehearsal in
/-- A plan in which the validator fails with it, and failures are not shown. -/
def forgedDenialDeployment : Deployment :=
  Plan.deployment
    { Plan.caching none with
      showFailureCause := .ok false
      validator := ⟨[], .fails forgedDenial⟩ }
    (.own 0) noEngine

open Rehearsal in
theorem failures_attributed_forged :
    RaisedBy forgedDenialDeployment (.event helloEvent) Caches.empty .validationInfrastructure
        forgedDenial ∧
      forgedDenial.isCancellation = false ∧
      LaidAt forgedDenialDeployment (.event helloEvent) Caches.empty .null "id"
        .validationInfrastructure forgedDenial ∧
      (handle forgedDenialDeployment (.event helloEvent) .null "id" Caches.empty).ending =
        .answered ⟨500, Http.standardHeaders, internalServerError, false⟩ := by
  have raised :
      RaisedBy forgedDenialDeployment (.event helloEvent) Caches.empty .validationInfrastructure
        forgedDenial := by
    cases understood : decodeBody helloEvent >>= Query.parse with
    | error f =>
        have readable : (decodeBody helloEvent >>= Query.parse).isOk = true := by decide +kernel
        rw [understood] at readable
        cases readable
    | ok q => exact .validator ⟨⟨⟨false, rfl⟩, helloEvent, rfl⟩, q, understood⟩ rfl
  have laid := failures_attributed raised rfl .null "id"
  obtain ⟨g, -, taken, noDenial, -⟩ := laid.foreign rfl
  exact ⟨raised, rfl, laid, taken.silent noDenial rfl⟩

end Invocation

end QueryGateway
