import QueryGateway.Failure.Basic

/-!
# Failures that are easy to answer

`Harmless` collects what makes a failure easy to answer: it can be read, it is no denial and no
cancellation. All of it lies in the origin of a failure, so a failure stays harmless whatever it is
put down to.
-/

namespace QueryGateway.Failure

/-- A failure that is easy to answer. -/
structure Harmless (f : Failure) : Prop where
  error : f.isCancellation = false
  worded : f.muteness? = none
  kind : ∃ k, f.kind = .known k ∧ k ≠ .accessDenied

theorem Harmless.noDenial {f : Failure} (h : Harmless f) : f.kind.isDenial = false := by
  obtain ⟨k, kind, other⟩ := h.kind
  rw [kind]
  cases k with
  | accessDenied => exact absurd rfl other
  | _ => rfl

theorem Harmless.of_origin {f g : Failure} (h : Harmless f) (origin : g.origin = f.origin) :
    Harmless g where
  error := by
    rw [isCancellation, origin]
    exact h.error
  worded := by
    rw [muteness?, origin]
    exact h.worded
  kind := by
    rw [Failure.kind, origin]
    exact h.kind

theorem harmless_own {cls : OwnClass} (kind : cls.kind ≠ .accessDenied) (message : Text)
    (details : Members) : Harmless (.own cls message details) :=
  ⟨rfl, rfl, cls.kind, rfl, kind⟩

theorem harmless_standard {cls : OwnClass} (kind : cls.kind ≠ .accessDenied) (details : Members) :
    Harmless (.standard cls details) :=
  harmless_own kind _ details

theorem harmless_plain (name message : Text) : Harmless (.plain name message) :=
  ⟨rfl, rfl, .internal, rfl, FailureKind.noConfusion⟩

theorem Harmless.causedBy {f : Failure} (h : Harmless f) (cause : Failure) :
    Harmless (f.causedBy cause) :=
  h.of_origin rfl

theorem Harmless.during {f : Failure} (h : Harmless f) (context : Failure) :
    Harmless (f.during context) :=
  h.of_origin rfl

end QueryGateway.Failure
