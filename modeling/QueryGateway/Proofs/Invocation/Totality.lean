import QueryGateway.Proofs.Invocation.Dump
import QueryGateway.Proofs.Invocation.Homemade
import QueryGateway.Proofs.Invocation.Verdict
import QueryGateway.Proofs.Json.Written
import QueryGateway.Proofs.Rehearsal.Plan

/-!
# When an invocation answers

An invocation is meant to answer whatever happens. It does so unless a collaborator raises a failure
that cannot be answered, and `Answerable` says exactly which failures can be: the answer is made
behind the last stage that takes failures for errors, so it must not fail itself.

Not every failure is answerable. One that calls itself a denial is answered with its message and
its code, which a failure of another class need not have, or not in a form that JSON knows, or only
in one that is nested too deep. One whose kind holds no value, or whose message cannot be had,
cannot be recorded.

The exact condition for a whole invocation speaks of the failures of collaborators only, as they
reach the end (`Blamed`): what the gateway itself fails with is harmless, and so is what it wraps
failures of the validator and of the execution in (`attributed_answerable`).
-/

namespace QueryGateway

open Text

/-- What a denial says: a message that says nothing is replaced. -/
def Failure.denialWording (message : Value) : Value :=
  if message.isTruthy then message else .text Invocation.unknownError

/-- A failure that can be answered, given the room for the document of a denial: its message stands
two containers deep in the document and its code three, and the document is a container too. -/
structure Failure.Answerable (room : Json.Room) (f : Failure) : Prop where
  error : f.isCancellation = false
  worded : f.muteness? = none
  named : f.kind.value?.isSome = true
  denial : f.kind.isDenial = true → ∃ message code,
    Invocation.messageOf? f = some message ∧ Invocation.codeOf? f = some code ∧
    Json.Writable (denialWording message) ∧ Json.Writable code ∧
    Json.within room (max (Json.levels (denialWording message)) (Json.levels code + 1) + 3) = true

namespace Invocation

variable {d : Deployment} {arrival : Arrival} {caches : Caches} {room : Json.Room}

/-! ## Which failures can be answered -/

theorem unreadable?_eq_none {f : Failure} :
    unreadable? f = none ↔ f.muteness? = none ∧ f.kind.value?.isSome = true := by
  unfold unreadable?
  cases f.muteness? with
  | some g => simp only [reduceCtorEq, false_and]
  | none =>
      cases f.kind with
      | known k => simp only [KindTag.value?, Option.isSome_some, and_self]
      | strange className value =>
          cases value with
          | none => simp only [KindTag.value?, reduceCtorEq, Option.isSome_none,
              Bool.false_eq_true, and_false]
          | some v => simp only [KindTag.value?, Option.isSome_some, and_self]

theorem dump_isOk {document : Value} : (∃ body, dumpDocument room document = .ok body) ↔
    Json.Writable document ∧ Json.within room (Json.levels document) = true := by
  simp only [dump_eq_ok_iff, Json.Writable, exists_and_left, and_comm]

/-- The document of a denial with this message and this code. -/
abbrev denialOf (message code : Value) : Value :=
  Value.object [("errors", .list [Value.object
    (QueryError.mk message [] [] (Value.object [("code", code)])).members])]

theorem members_denial (message code : Value) :
    (QueryError.mk message [] [] (Value.object [("code", code)])).members =
      ([("message", Failure.denialWording message),
        ("extensions", Value.object [("code", code)])] : Members) := rfl

/-- The document of a denial can be written if what it says and its code can. -/
theorem writable_denial (message code : Value) : Json.Writable (denialOf message code) ↔
    Json.Writable (Failure.denialWording message) ∧ Json.Writable code := by
  rw [denialOf, members_denial]
  simp only [Json.writable_object_cons, Json.writable_list_singleton, Json.writable_object_nil,
    and_true]

theorem levels_denial (message code : Value) : Json.levels (denialOf message code) =
    max (Json.levels (Failure.denialWording message)) (Json.levels code + 1) + 3 := by
  rw [denialOf, members_denial]
  simp only [Value.object, List.map_cons, List.map_nil, Json.levels, Json.levelsOfMembers,
    Json.levelsOfItems, Nat.max_zero]

theorem denialResponse_isOk {f : Failure} :
    (∃ response, denialResponse room f = .ok response) ↔ ∃ message code,
      messageOf? f = some message ∧ codeOf? f = some code ∧
      Json.Writable (Failure.denialWording message) ∧ Json.Writable code ∧
      Json.within room
        (max (Json.levels (Failure.denialWording message)) (Json.levels code + 1) + 3) = true := by
  have bodied : ∀ message code, (∃ response, (do
      let body ← dumpDocument room (denialOf message code)
      pure (Response.plain 200 body)) = .ok response) ↔
      Json.Writable (Failure.denialWording message) ∧ Json.Writable code ∧ Json.within room
        (max (Json.levels (Failure.denialWording message)) (Json.levels code + 1) + 3) = true := by
    intro message code
    rw [← levels_denial, ← and_assoc, ← writable_denial, ← dump_isOk]
    constructor
    · rintro ⟨response, h⟩
      obtain ⟨body, written, -⟩ := Except.bind_ok h
      exact ⟨body, written⟩
    · rintro ⟨body, written⟩
      rw [written, Except.ok_bind]
      exact ⟨_, rfl⟩
  unfold denialResponse denialDocument
  cases messageOf? f with
  | none => simp only [Except.error_bind, reduceCtorEq, exists_false, false_and]
  | some message =>
      cases codeOf? f with
      | none => simp only [Except.error_bind, reduceCtorEq, exists_false, false_and, and_false]
      | some code =>
          simp only [Except.ok_bind, bodied, Option.some.injEq, exists_eq_left',
            exists_and_left]

theorem failureResponse_isOk {f : Failure} {showCause : Bool} :
    (∃ response, failureResponse room f showCause = .ok response) ↔
      (f.kind.isDenial = true → ∃ response, denialResponse room f = .ok response) := by
  unfold failureResponse
  cases f.kind.isDenial with
  | true => simp only [if_true, true_imp_iff]
  | false =>
      simp only [Bool.false_eq_true, if_false, false_imp_iff, iff_true]
      exact ⟨_, rfl⟩

theorem answerable_iff {f : Failure} {showCause : Bool} :
    (∃ response, conclude room showCause (.error f) = .answered response) ↔ f.Answerable room := by
  constructor
  · rintro ⟨response, h⟩
    obtain ⟨readable, made⟩ := conclude_answered h
    rw [Bool.or_eq_false_iff, Option.isSome_eq_false_iff, Option.isNone_iff_eq_none,
      unreadable?_eq_none] at readable
    obtain ⟨error, worded, named⟩ := readable
    have denial := failureResponse_isOk.mp ⟨response, made⟩
    exact ⟨error, worded, named, fun isDenial => denialResponse_isOk.mp (denial isDenial)⟩
  · intro h
    have made : ∃ response, failureResponse room f showCause = .ok response :=
      failureResponse_isOk.mpr fun isDenial => denialResponse_isOk.mpr (h.denial isDenial)
    obtain ⟨response, made⟩ := made
    refine ⟨response, ?_⟩
    simp only [conclude, h.error, Bool.false_eq_true, if_false,
      unreadable?_eq_none.mpr ⟨h.worded, h.named⟩, made]

theorem answerable_harmless {f : Failure} (h : f.Harmless) (room : Json.Room) :
    f.Answerable room := by
  obtain ⟨k, kind, -⟩ := h.kind
  refine ⟨h.error, h.worded, ?_, ?_⟩
  · rw [kind]
    rfl
  · intro denial
    rw [h.noDenial] at denial
    cases denial

/-- A failure that is wrapped is answered, whatever it is. -/
theorem attributed_answerable {cls : OwnClass} (kind : cls.kind ≠ .accessDenied) {f : Failure}
    (foreign : (f.isOwn || f.isCancellation) = false) (room : Json.Room) :
    (attributed cls f).Answerable room := by
  rw [attributed, foreign]
  exact answerable_harmless ((Failure.harmless_standard kind _).causedBy f) room

/-! ## Who is to blame -/

variable (d arrival caches) in
/-- A failure that a collaborator raised, as it reaches the end of the invocation. -/
inductive Blamed : Failure → Prop
  | switch {f : Failure} : d.showFailureCause = .error f → Blamed f
  | validator (m : Understood d arrival) {f : Failure} :
      (d.validate (credentials m.event) caches).1 = .error f →
      Blamed (attributed .validationInfrastructure f)
  | accessLog (m : Admitted d arrival caches) {f : Failure} :
      accessText d m.user = .error f → Blamed f
  | context (m : Noted d arrival caches) {f : Failure} :
      (d.buildContext m.user m.query (m.afterValidation caches)).1 = .error f → Blamed f
  | dispatch (m : Equipped d arrival caches) {f : Failure} :
      (d.dispatch m.user m.query m.context m.afterBuild).1 = .error f → Blamed f
  | hook (m : Dispatched d arrival caches) {f : Failure} : m.context.stage = .created →
      m.hook.1.outcome = .error f → Blamed f
  | execution (m : Started d arrival caches) {f : Failure} :
      (m.execution.run m.hook.2).1 = .error f → Blamed (attributed .executionFailure f)
  | compression (m : Written d arrival caches) {f : Failure} :
      d.enableCompression = .error f → Blamed f

/-- Whoever is to blame, the invocation ends with that failure. -/
theorem Blamed.passage {f : Failure} (b : Blamed d arrival caches f) (id : Value) :
    ∃ c, Passage d arrival caches id c ∧ c.outcome = .error f := by
  cases b with
  | switch h => exact ⟨_, .unopened f h, rfl⟩
  | validator m h => exact ⟨_, .refused m _ h, rfl⟩
  | accessLog m h => exact ⟨_, .unnoted m f h, rfl⟩
  | context m h => exact ⟨_, .unequipped m f h, rfl⟩
  | dispatch m h => exact ⟨_, .undispatched m f h, rfl⟩
  | hook m created h => exact ⟨_, .unstarted m f created h, rfl⟩
  | execution m h => exact ⟨_, .unperformed m _ h, rfl⟩
  | compression m h =>
      refine ⟨_, .unanswered m f ?_, rfl⟩
      rw [Written.response, h]
      rfl

/-- Whatever an invocation fails with, a collaborator raised it or it is harmless. -/
theorem Passage.blamed_or_harmless {id : Value} {c : Course} (p : Passage d arrival caches id c)
    {f : Failure} (h : c.outcome = .error f) : Blamed d arrival caches f ∨ f.Harmless := by
  cases p with
  | unopened g raised =>
      cases h
      exact .inl (.switch raised)
  | rejected m x rejected =>
      cases h
      exact .inr (harmless_malformedEvent x)
  | misunderstood m g unread =>
      cases h
      exact .inr (harmless_query unread)
  | refused m g raised =>
      cases h
      exact .inl (.validator m raised)
  | unnoted m g raised =>
      cases h
      exact .inl (.accessLog m raised)
  | unequipped m g raised =>
      cases h
      exact .inl (.context m raised)
  | undispatched m g raised =>
      cases h
      exact .inl (.dispatch m raised)
  | startedBefore m started =>
      cases h
      exact .inr (harmless_alreadyStarted m.context)
  | unstarted m g created raised =>
      cases h
      exact .inl (.hook m created raised)
  | unperformed m g raised =>
      cases h
      exact .inl (.execution m raised)
  | unwritten m g refused =>
      cases h
      exact .inr (harmless_dump refused)
  | unanswered m g failed =>
      cases h
      exact .inl (.compression m (Except.map_error failed))
  | answered m response => cases h

/-- An invocation answers exactly if the failure that a collaborator raised, if one did, can be
answered. -/
theorem handle_answers_iff (requestId : Value) (fresh : Text) :
    (∃ response, (handle d arrival requestId fresh caches).ending = .answered response) ↔
      ∀ f, Blamed d arrival caches f → f.Answerable (denialRoom d.room) := by
  have passage := course_passage d arrival caches (initialId requestId fresh)
  rw [handle_ending]
  constructor
  · intro answered f blamed
    obtain ⟨c, ends, outcome⟩ := blamed.passage (initialId requestId fresh)
    rw [← ends.outcome_eq, outcome] at answered
    exact answerable_iff.mp answered
  · intro answerable
    cases outcome : verdict d arrival caches with
    | ok response => exact ⟨response, rfl⟩
    | error f =>
        refine answerable_iff.mpr ?_
        rcases passage.blamed_or_harmless (passage.outcome_eq.trans outcome) with blamed | harmless
        · exact answerable f blamed
        · exact answerable_harmless harmless _

open Rehearsal in
/-- A context that cannot be built, with a failure that calls itself a denial and has no message. -/
def claimedDenialPlan : Plan :=
  { Plan.caching none with
    showFailureCause := .ok false
    contextFails := some (.of (.foreign (.plain "TaggedError") [.text "no tenant"]
      { kind := some (.known .accessDenied) })) }

open Rehearsal in
/-- Such a failure ends the invocation without an answer. -/
theorem claimedDenial_unanswered :
    ¬ ∃ response, (handle (claimedDenialPlan.deployment (.own 0) noEngine) (.event helloEvent)
      .null "id" Caches.empty).ending = .answered response := by
  rintro ⟨response, answered⟩
  have none : (handle (claimedDenialPlan.deployment (.own 0) noEngine) (.event helloEvent)
      .null "id" Caches.empty).ending.response?.isSome = false := by decide +kernel
  rw [answered] at none
  cases none

end Invocation

end QueryGateway
