import QueryGateway.Proofs.Invocation.Malformed
import QueryGateway.Proofs.Form.Record
import QueryGateway.Proofs.Text.Transport

/-!
# A body as it is, or in base64

A client may send a text as it is, or put its bytes in base64 and mark the body as encoded. An
invocation does not tell the two apart: everything it asks, records, answers and leaves behind is
the same (`encoding_unseen`), whatever the text is, also if it is empty, blank or no query at all.

`Reencoded` holds of two arrivals that differ in nothing else. For arrivals that are still to be
read it speaks of what the fields are read as and not of how they are spelled, so the mark may stand
under either of its names, as any of the words that count as true or false, or be left out where it
is not set.

The proof has one idea. Behind the reading of the body, an event is only asked for its headers and
its request context, so a stage that is given the other event goes on in the same way and hands the
other event on (`prepare_eq_map`).

What is NOT here: a text with lone surrogates, which has no bytes, and a body in base64 that is
spelled otherwise than an encoder spells it.
-/

namespace QueryGateway.Invocation

variable {d : Deployment} {a b : Arrival} {e e' : Event} {t : Text}

/-! ## Two arrivals with the same text -/

/-- A text in base64: the letters for its bytes, padded. -/
def inBase64 (t : Text) : Text := Base64.encodePadded Base64.standard (Utf8.encode t)

/-- An event with another body. -/
def Event.withBody (e : Event) (body : Text) (isBase64 : Bool) : Event :=
  { e with body := some body, isBase64 }

/-- The names under which an event has its body and the mark of base64. -/
def Event.bodyNames : List Text := ["body", "isBase64Encoded", "is_base64_encoded"]

open Form in
/-- Members that are read as this body and this mark. -/
structure Event.Bears (members : Members) (body : Text) (isBase64 : Bool) : Prop where
  body : optional members ["body"] none optionalText = .ok (some body)
  mark : optional members ["isBase64Encoded", "is_base64_encoded"] false bool = .ok isBase64

/-- Two arrivals that bring the same text, the first as it is and the second in base64, and are
otherwise the same. -/
inductive Reencoded (t : Text) : Arrival → Arrival → Prop
  | event (e : Event) :
      Reencoded t (.event (e.withBody t false)) (.event (e.withBody (inBase64 t) true))
  | members {plain encoded : List (Value × Value)} :
      Event.Bears (Form.named plain) t false → Event.Bears (Form.named encoded) (inBase64 t) true →
      (∀ name ∉ Event.bodyNames,
        (Form.named plain).get? name = (Form.named encoded).get? name) →
      Reencoded t (.value (.map plain)) (.value (.map encoded))

/-! ## They are read alike -/

open Form in
/-- With a body and a mark in order, the headers and the request context decide. -/
theorem Event.Bears.ofMembers_eq {members : Members} {body : Text} {isBase64 : Bool}
    (h : Bears members body isBase64) :
    Event.ofMembers members = titled title
      ((both (optional members ["headers"] [] (nullAsEmpty (table text)))
        (optional members ["requestContext", "request_context"] []
          (nullAsEmpty (table any)))).map
        fun (headers, requestContext) => ⟨some body, headers, isBase64, requestContext⟩) := by
  rw [Event.ofMembers, h.body, h.mark]
  cases optional members ["headers"] [] (nullAsEmpty (table text)) <;>
    cases optional members ["requestContext", "request_context"] [] (nullAsEmpty (table any)) <;>
    rfl

theorem Event.Bears.isTruthy {members : List (Value × Value)} {body : Text} {isBase64 : Bool}
    (h : Bears (Form.named members) body isBase64) : (Value.map members).isTruthy = true := by
  cases members with
  | nil => cases h.body
  | cons m rest => rfl

theorem Event.Bears.ofValue_eq {members : List (Value × Value)} {body : Text} {isBase64 : Bool}
    (h : Bears (Form.named members) body isBase64) :
    Event.ofValue (.map members) = Event.ofMembers (Form.named members) := by
  rw [Event.ofValue, if_pos h.isTruthy]

/-- Both are rejected for the same reasons, or both are read as events that differ in the body. -/
theorem Reencoded.read (h : Reencoded t a b) :
    (∃ x, a.read = .error x ∧ b.read = .error x) ∨
      ∃ e : Event, a.read = .ok (e.withBody t false) ∧
        b.read = .ok (e.withBody (inBase64 t) true) := by
  cases h with
  | event e => exact .inr ⟨e, rfl, rfl⟩
  | @members plain encoded bears bears' same =>
      have apart : ∀ name ∈ (["headers", "requestContext", "request_context"] : List Text),
          name ∉ Event.bodyNames := by
        decide
      obtain ⟨headers, context⟩ := List.forall_mem_cons.mp fun name mem =>
        same name (apart name mem)
      have headers := Form.optional_congr (List.forall_mem_singleton.mpr headers) []
        (Form.nullAsEmpty (Form.table Form.text))
      have context := Form.optional_congr context [] (Form.nullAsEmpty (Form.table Form.any))
      rw [Arrival.read, Arrival.read, bears.ofValue_eq, bears'.ofValue_eq, bears.ofMembers_eq,
        bears'.ofMembers_eq, headers, context]
      generalize Form.both _ _ = rest
      cases rest with
      | error cs => exact .inl ⟨_, rfl, rfl⟩
      | ok fields => exact .inr ⟨⟨none, fields.1, false, fields.2⟩, rfl, rfl⟩

theorem decodeBase64_inBase64 (unicode : t.IsScalar) : decodeBase64 (inBase64 t) = .ok t :=
  decodeBase64_ok.mpr ⟨_, Base64.decode?_encodePadded _, Utf8.decode?_encode unicode⟩

theorem decodeBody_withBody (e : Event) (unicode : t.IsScalar) :
    decodeBody (e.withBody (inBase64 t) true) = decodeBody (e.withBody t false) := by
  show (decodeBase64 (inBase64 t)).map some = .ok (some t)
  rw [decodeBase64_inBase64 unicode]
  rfl

/-- Arrivals that are read alike bring the same query, or have none for the same reason. -/
theorem Reencoded.query_eq (h : Reencoded t a b) (unicode : t.IsScalar) : a.query = b.query := by
  unfold Arrival.query
  rcases h.read with ⟨x, rejected, rejected'⟩ | ⟨e, read, read'⟩
  · rw [rejected, rejected']
  · simp only [read, read', Except.mapError_ok, Except.ok_bind, decodeBody_withBody e unicode]

/-! ## They are served alike -/

/-- Behind the query nothing looks at the event but for its headers and its request context. -/
theorem prepare_eq_map (read : a.read = .ok e) (read' : b.read = .ok e')
    (headers : e'.headers = e.headers) (context : e'.requestContext = e.requestContext)
    (body : decodeBody e' = decodeBody e) :
    prepare d b = (fun p : Prepared => { p with event := e' }) <$> prepare d a := by
  simp only [prepare, readEvent, read, read', Event.requestId, headers, context, body, map_bind,
    map_pure, pure_bind]
  rfl

/-- To the outcome of the execution nothing of the event is added but what its headers ask for. -/
theorem answer_congr {p q : Prepared} (headers : p.event.headers = q.event.headers)
    (query : p.query = q.query) (o : Except Failure Result) : answer d p o = answer d q o := by
  simp only [answer, headers, query]

theorem Reencoded.course_eq (h : Reencoded t a b) (unicode : t.IsScalar) (id : Value)
    (caches : Caches) : course d a id caches = course d b id caches := by
  unfold course
  rcases h.read with ⟨x, rejected, rejected'⟩ | ⟨e, read, read'⟩
  · simp only [prepare, readEvent, rejected, rejected']
  · obtain ⟨stages, plain, encoded⟩ : ∃ stages : Stage Prepared,
        prepare d a = (fun p => { p with event := e.withBody t false }) <$> stages ∧
          prepare d b = (fun p => { p with event := e.withBody (inBase64 t) true }) <$> stages :=
      ⟨prepare d a, prepare_eq_map read read rfl rfl rfl,
        prepare_eq_map read read' rfl rfl (decodeBody_withBody e unicode)⟩
    rw [plain, encoded, run_map, run_map]
    rcases stages.run (Run.initial caches id) with ⟨_ | p, r⟩
    · rfl
    · have same := answer_congr (d := d) (p := { p with event := e.withBody t false })
        (q := { p with event := e.withBody (inBase64 t) true }) rfl rfl
      simp only [Except.map, same]

/-- A text in base64 is taken like the text itself. Both arrivals bring the same query or fail
alike, and their invocations are the same in all that can be seen of them: the response, the
questions to collaborators and the records in their order, the caches and what is left to run. -/
theorem encoding_unseen (unicode : t.IsScalar) (h : Reencoded t a b) (d : Deployment)
    (requestId : Value) (fresh : Text) (caches : Caches) :
    a.query = b.query ∧
      handle d a requestId fresh caches = handle d b requestId fresh caches := by
  refine ⟨h.query_eq unicode, ?_⟩
  rw [handle, handle, h.course_eq unicode]

open Rehearsal in
/-- An event with a text beyond ASCII: once as it is, the mark under its second name and as a word,
and once in base64. -/
theorem encoding_unseen_members :
    let text : Text :=
      "\x7b\"query\": \"\x7b hello \x7d\", \"variables\": \x7b\"é\": \"€😀\"\x7d\x7d"
    let letters : Text :=
      "eyJxdWVyeSI6ICJ7IGhlbGxvIH0iLCAidmFyaWFibGVzIjogeyLDqSI6ICLigqzwn5iAIn19"
    let headers := Value.object [("Authorization", .text "Bearer valid-token")]
    let plain := Arrival.value <| .object
      [("body", .text text), ("headers", headers), ("is_base64_encoded", .text "off")]
    let encoded := Arrival.value <| .object
      [("isBase64Encoded", .bool true), ("headers", headers), ("body", .text letters)]
    Text.IsScalar text ∧ Reencoded text plain encoded ∧
      plain.query = encoded.query ∧
      handle (cachingDeployment none) plain .null "id" Caches.empty =
        handle (cachingDeployment none) encoded .null "id" Caches.empty := by
  intro text letters headers plain encoded
  have unicode : Text.IsScalar text := by decide +kernel
  have spelled : letters = inBase64 text := by decide +kernel
  have same : Reencoded text plain encoded := by
    refine .members ⟨by rfl, by rfl⟩ ⟨?_, by rfl⟩ ?_
    · rw [← spelled]
      rfl
    · intro name other
      obtain ⟨notBody, notMark, notMark'⟩ :
          name ≠ "body" ∧ name ≠ "isBase64Encoded" ∧ name ≠ "is_base64_encoded" := by
        simpa [Event.bodyNames] using other
      simp [Form.named, Members.get?_cons, Ne.symm notBody, Ne.symm notMark, Ne.symm notMark']
  exact ⟨unicode, same,
    encoding_unseen unicode same (cachingDeployment none) .null "id" Caches.empty⟩

end QueryGateway.Invocation
