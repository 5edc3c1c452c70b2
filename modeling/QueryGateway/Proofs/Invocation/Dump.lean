import QueryGateway.Invocation.Deployment
import QueryGateway.Proofs.Json.Document

/-!
# Documents that go into a body

A document goes into a body as the writer writes it, if there is room for it, and else not at all
(`dump_eq_ok_iff`). What it fails with is a failure of serialization or, only where there is too
little room, one that no stage wraps (`dumpFailure_of_fits`).
-/

namespace QueryGateway.Invocation

open Json

variable {room : Room} {document : Value} {t : Text}

theorem dump_of_fits (fits : within room (levels document) = true) :
    dumpDocument room document = (write .response document).mapError dumpFailure := by
  rw [dumpDocument, writeWithin_eq document fits]

theorem dump_eq_ok_iff : dumpDocument room document = .ok t ↔
    within room (levels document) = true ∧ write .response document = .ok t := by
  cases fits : within room (levels document) with
  | false =>
      obtain ⟨fault, failed⟩ := writeWithin_fails document fits
      rw [dumpDocument, failed]
      exact ⟨nofun, fun h => nomatch h.1⟩
  | true =>
      rw [dump_of_fits fits]
      exact ⟨fun h => ⟨rfl, Except.of_mapError_ok h⟩, fun h => by rw [h.2]; rfl⟩

/-- A document is not written for one of two reasons: what it holds, and how deep it holds it. -/
theorem dump_fails_iff : (∃ f, dumpDocument room document = .error f) ↔
    Unwritable document ∨ within room (levels document) = false := by
  cases fits : within room (levels document) with
  | false =>
      obtain ⟨fault, failed⟩ := writeWithin_fails document fits
      rw [dumpDocument, failed]
      exact ⟨fun _ => .inr rfl, fun _ => ⟨_, rfl⟩⟩
  | true =>
      rw [dump_of_fits fits, ← write_fails_iff]
      cases write .response document with
      | ok t => simp only [Except.mapError, reduceCtorEq, exists_false, or_self]
      | error fault => exact ⟨fun _ => .inl ⟨fault, rfl⟩, fun _ => ⟨_, rfl⟩⟩

/-- Where there is room, what went wrong is put down to the document. -/
theorem dump_error_of_fits {f : Failure} (fits : within room (levels document) = true)
    (h : dumpDocument room document = .error f) :
    ∃ fault : WriteFault, f = (Failure.standard .serializationFailure
      [("reason", .text fault.message)]).causedBy (.plain fault.className fault.message) := by
  rw [dump_of_fits fits] at h
  obtain ⟨fault, failed, rfl⟩ := Except.of_mapError_error h
  refine ⟨fault, ?_⟩
  have ofValue := isOfValue_write document failed
  cases fault with
  | tooDeep doing => exact absurd rfl (ofValue doing)
  | _ => rfl

theorem dump_isPrintable (h : dumpDocument room document = .ok t) : t.IsPrintable :=
  isPrintable_write Style.response_printable document (dump_eq_ok_iff.mp h).2

end QueryGateway.Invocation
