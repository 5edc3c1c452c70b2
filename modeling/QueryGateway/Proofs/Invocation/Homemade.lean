import QueryGateway.Invocation.Adapter
import QueryGateway.Proofs.Except
import QueryGateway.Proofs.Failure.Harmless

/-!
# The failures that an invocation makes itself are harmless

Between the collaborators stand the stages that are the gateway's own: an event is read, a body is
decoded and read, a context is started, a document is written. Each of them can fail, on whatever
arrived, and each of its failures is harmless: it can be read, and it is no denial. So whatever goes
wrong in answering an invocation, it goes wrong with a failure that a collaborator raised.
-/

namespace QueryGateway.Invocation

open Failure

theorem harmless_malformedEvent (x : Form.Rejection) : Harmless (malformedEvent x) :=
  (harmless_own FailureKind.noConfusion _ _).causedBy _

/-! ## Reading the query -/

theorem harmless_parse {body : Option Text} {f : Failure} (h : Query.parse body = .error f) :
    Harmless f := by
  have empty : Harmless Query.emptyBody := harmless_own FailureKind.noConfusion _ _
  unfold Query.parse at h
  split at h
  · cases h
    exact empty
  · split at h
    · cases h
      exact empty
    · split at h
      · cases h
      · cases h
        exact (harmless_standard FailureKind.noConfusion _).causedBy _

theorem harmless_undecodable (cause : Failure) : Harmless (undecodable cause) :=
  (harmless_own FailureKind.noConfusion _ _).causedBy cause

theorem harmless_decodeBase64 {body : Text} {f : Failure} (h : decodeBase64 body = .error f) :
    Harmless f := by
  unfold decodeBase64 at h
  split at h
  · cases h
    exact (harmless_plain _ _).during _
  · split at h
    · cases h
      exact harmless_undecodable _
    · split at h
      · cases h
        exact harmless_undecodable _
      · cases h

theorem harmless_query {e : Event} {f : Failure}
    (h : (decodeBody e >>= Query.parse) = .error f) : Harmless f := by
  rcases Except.bind_error h with h | ⟨body, -, h⟩
  · unfold decodeBody at h
    split at h
    · exact harmless_decodeBase64 (Except.map_error h)
    · cases h
  · exact harmless_parse h

/-! ## Starting and writing -/

theorem harmless_alreadyStarted {σ : Type} (c : Execution.Context σ) :
    Harmless c.alreadyStarted :=
  harmless_standard FailureKind.noConfusion _

theorem harmless_dumpFailure (fault : Json.WriteFault) : Harmless (dumpFailure fault) := by
  unfold dumpFailure
  split
  · exact harmless_plain _ _
  · exact (harmless_standard FailureKind.noConfusion _).causedBy _

theorem harmless_dump {room : Json.Room} {document : Value} {f : Failure}
    (h : dumpDocument room document = .error f) : Harmless f := by
  obtain ⟨fault, -, rfl⟩ := Except.of_mapError_error h
  exact harmless_dumpFailure fault

end QueryGateway.Invocation
