/-!
# Computations that may fail, step by step

What is known about the parts of a computation in `Except` when its outcome is known, and that two
computations agree as soon as their steps do. These few facts are all that the proofs use of the
monad.
-/

namespace QueryGateway

variable {ε : Type} {α β : Type}

theorem Except.ok_bind (a : α) (f : α → Except ε β) : (Except.ok a >>= f) = f a := rfl

theorem Except.error_bind (e : ε) (f : α → Except ε β) :
    ((Except.error e : Except ε α) >>= f) = .error e := rfl

theorem Except.mapError_ok {ε' : Type} (f : ε → ε') (a : α) :
    (Except.ok a).mapError f = .ok a := rfl

theorem Except.mapError_error {ε' : Type} (f : ε → ε') (e : ε) :
    (Except.error e : Except ε α).mapError f = .error (f e) := rfl

theorem Except.bind_ok {o : Except ε α} {f : α → Except ε β} {b : β} (h : (o >>= f) = .ok b) :
    ∃ a, o = .ok a ∧ f a = .ok b := by
  cases o with
  | error e => cases h
  | ok a => exact ⟨a, rfl, h⟩

theorem Except.exists_ok {o : Except ε α} (h : o.isOk = true) : ∃ a, o = .ok a := by
  cases o with
  | error e => cases h
  | ok a => exact ⟨a, rfl⟩

theorem Except.bind_error {o : Except ε α} {f : α → Except ε β} {e : ε}
    (h : (o >>= f) = .error e) : o = .error e ∨ ∃ a, o = .ok a ∧ f a = .error e := by
  cases o with
  | error e =>
      cases h
      exact .inl rfl
  | ok a => exact .inr ⟨a, rfl, h⟩

theorem Except.map_ok {o : Except ε α} {f : α → β} {b : β} (h : o.map f = .ok b) :
    ∃ a, o = .ok a ∧ b = f a := by
  cases o with
  | error e => cases h
  | ok a =>
      cases h
      exact ⟨a, rfl, rfl⟩

theorem Except.map_error {o : Except ε α} {f : α → β} {e : ε} (h : o.map f = .error e) :
    o = .error e := by
  cases o with
  | error e =>
      cases h
      rfl
  | ok a => cases h

theorem Except.of_mapError_ok {ε' : Type} {o : Except ε α} {f : ε → ε'} {a : α}
    (h : o.mapError f = .ok a) : o = .ok a := by
  cases o with
  | ok b =>
      cases h
      rfl
  | error e => cases h

theorem Except.of_mapError_error {ε' : Type} {o : Except ε α} {f : ε → ε'} {e' : ε'}
    (h : o.mapError f = .error e') : ∃ e, o = .error e ∧ e' = f e := by
  cases o with
  | ok b => cases h
  | error e =>
      cases h
      exact ⟨e, rfl, rfl⟩

theorem Except.ok_fails {a : α} : (∃ e, (.ok a : Except ε α) = .error e) ↔ False :=
  iff_false_intro fun ⟨_, h⟩ => nomatch h

theorem Except.bind_failed {o : Except ε α} {f : α → Except ε β}
    (h : (∃ e, o = .error e) ∨ ∀ a, o = .ok a → ∃ e, f a = .error e) :
    ∃ e, (o >>= f) = .error e := by
  cases o with
  | error e => exact ⟨e, rfl⟩
  | ok a => exact h.elim (fun ⟨_, failed⟩ => nomatch failed) fun later => later a rfl

theorem Except.map_fails {o : Except ε α} {f : α → β} :
    (∃ e, o.map f = .error e) ↔ ∃ e, o = .error e := by
  cases o with
  | error e => exact ⟨fun _ => ⟨e, rfl⟩, fun _ => ⟨e, rfl⟩⟩
  | ok a => exact ok_fails.trans ok_fails.symm

/-- Two steps fail if the first one does or the second one does, whatever it goes on from. -/
theorem Except.bind_fails {o : Except ε α} {f : α → Except ε β} {p : Prop}
    (h : ∀ a, (∃ e, f a = .error e) ↔ p) :
    (∃ e, (o >>= f) = .error e) ↔ (∃ e, o = .error e) ∨ p := by
  cases o with
  | error e => exact ⟨fun _ => .inl ⟨e, rfl⟩, fun _ => ⟨e, rfl⟩⟩
  | ok a => exact (h a).trans ⟨.inr, fun failed => failed.resolve_left ok_fails.mp⟩

theorem Except.bind_eq_of_ok {o : Except ε α} {f g : α → Except ε β}
    (h : ∀ a, o = .ok a → f a = g a) : (o >>= f) = (o >>= g) := by
  cases o with
  | error e => rfl
  | ok a => exact h a rfl

end QueryGateway
