import QueryGateway.Proofs.Invocation.Verdict

/-!
# What the clean-up does

Behind its outcome an invocation asks nobody anything. `close` leaves records, empties the cache of
the adapter and asks an execution to end that was left behind (`close_run`). There are at most three
records, in this order: one for a failure that is answered, one for a context that was built and not
started, and one for the entries that were in the cache.
-/

namespace QueryGateway

theorem Cache.evict_empties (c : Cache) : c.evict.1 = Cache.empty := by
  obtain ⟨entries⟩ := c
  cases entries with
  | nil => rfl
  | cons e rest => rfl

namespace Invocation

/-- The record of an outcome: a failure has one if it can be read and is no cancellation. -/
def outcomeRecord? (o : Except Failure Response) (id : Value) : Option Log.Record :=
  match o with
  | .ok _ => none
  | .error f =>
    if f.isCancellation || (unreadable? f).isSome then none else some (failureRecord f id)

/-- The record of a context that was built and not started, if there is such a context. -/
def droppedRecord? (d : Deployment) (r : Run) : Option Log.Record :=
  r.built.bind fun b => if b.context.isStarted then none else some (droppedRecord d r)

/-- The records of the clean-up. -/
def closingRecords (d : Deployment) (o : Except Failure Response) (r : Run) : List Log.Record :=
  (outcomeRecord? o r.correlationId).toList ++ (droppedRecord? d r).toList ++
    (r.caches d.cache).evict.2

theorem settle_run (d : Deployment) (o : Except Failure Response) (r : Run) :
    (settle d o r).2 = r.addRecords (outcomeRecord? o r.correlationId).toList := by
  have idle : r = r.addRecords [] := by simp [Run.addRecords]
  cases o with
  | ok response => exact idle
  | error f =>
      rw [settle, settleFailure, outcomeRecord?]
      cases f.isCancellation with
      | true => exact idle
      | false =>
          cases unreadable? f with
          | some g => exact idle
          | none =>
              simp only [answerFailure_eq]
              cases failureResponse (denialRoom d.room) f r.showCause <;> rfl

theorem noteDropped_run (d : Deployment) (r : Run) :
    noteDropped d r = r.addRecords (droppedRecord? d r).toList := by
  have idle : r = r.addRecords [] := by simp [Run.addRecords]
  rw [noteDropped, droppedRecord?]
  cases r.built with
  | none => exact idle
  | some b =>
      simp only [Option.bind_some]
      cases b.context.isStarted with
      | true => exact idle
      | false => rfl

theorem evict_run (d : Deployment) (r : Run) :
    evict d r = { r with caches := r.caches.set d.cache Cache.empty }.addRecords
      (r.caches d.cache).evict.2 := by
  rw [← Cache.evict_empties (r.caches d.cache)]
  rfl

theorem evict_empties (d : Deployment) (r : Run) : (evict d r).caches d.cache = Cache.empty := by
  rw [evict_run]
  exact if_pos rfl

/-- Whether an execution is left behind: it was handed out and has not ended. -/
def leavesBehind (r : Run) : Bool := r.dispatched && !r.loop.isDone theExecution

theorem abandon_run (r : Run) :
    abandon r = { r with cancelling := leavesBehind r || r.cancelling } := by
  show (if leavesBehind r then { r with cancelling := true } else r) = _
  cases leavesBehind r <;> rfl

/-- The clean-up leaves records, empties the cache of the adapter, and asks an execution to end that
was left behind. -/
theorem close_run (d : Deployment) (o : Except Failure Response) (behind : List CacheEffect)
    (r : Run) :
    (close d o behind r).run =
      { r with
        trace := r.trace ++ (closingRecords d o r).map .record
        caches := r.caches.set d.cache Cache.empty
        cancelling := leavesBehind r || r.cancelling } := by
  show evict d (noteDropped d (abandon (settle d o r).2)) = _
  rw [settle_run, abandon_run, noteDropped_run, evict_run]
  simp only [closingRecords, List.map_append, ← List.append_assoc]
  rfl

theorem close_trace (d : Deployment) (o : Except Failure Response) (behind : List CacheEffect)
    (r : Run) :
    (close d o behind r).run.trace = r.trace ++ (closingRecords d o r).map .record := by
  rw [close_run]

theorem handle_trace (d : Deployment) (arrival : Arrival) (requestId : Value) (fresh : Text)
    (caches : Caches) :
    let c := course d arrival (initialId requestId fresh) caches
    (handle d arrival requestId fresh caches).run.trace =
      c.run.trace ++ (closingRecords d c.outcome c.run).map .record :=
  close_trace ..

end Invocation

end QueryGateway
