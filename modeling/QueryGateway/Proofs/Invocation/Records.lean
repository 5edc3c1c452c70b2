import QueryGateway.Proofs.Invocation.Closing

/-!
# Which records an invocation leaves

Up to its outcome an invocation leaves few records of its own: that of the access, if these are kept,
and behind it, if there is a response, that of the query that was executed. In front of them stand
the records of the validator, if it is asked (`said`). These may be any records at all, so what is
stated about the adapter's own records is stated beside them.

The records are read off the run at each milestone; the clean-up adds its own behind the outcome.
-/

namespace QueryGateway.Invocation

variable {d : Deployment} {arrival : Arrival} {caches : Caches}

/-! ## Records in a trace -/

/-- The record that a deed leaves, if it leaves one. -/
def Deed.record? : Deed → Option Log.Record
  | .record r => some r
  | _ => none

/-- The records in a trace. -/
def recordsOf (trace : List Deed) : List Log.Record := trace.filterMap Deed.record?

theorem recordsOf_records (trace : List Deed) (records : List Log.Record) :
    recordsOf (trace ++ records.map .record) = recordsOf trace ++ records := by
  have read : (records.map Deed.record).filterMap Deed.record? = records := by
    rw [List.filterMap_map]
    exact List.filterMap_some
  rw [recordsOf, List.filterMap_append, read, recordsOf]

theorem recordsOf_addRecords (r : Run) (records : List Log.Record) :
    recordsOf (r.addRecords records).trace = recordsOf r.trace ++ records :=
  recordsOf_records ..

theorem recordsOf_add (r : Run) {deed : Deed} (h : deed.record? = none) :
    recordsOf (r.add deed).trace = recordsOf r.trace := by
  have silent : [deed].filterMap Deed.record? = [] := List.filterMap_cons_none h
  rw [recordsOf, Run.add, List.filterMap_append, silent, List.append_nil, recordsOf]

/-! ## The records of the validator -/

variable (d arrival caches) in
/-- The records that the validator leaves, if it is asked. -/
def said : List Log.Record :=
  match d.showFailureCause, arrival.read with
  | .ok _, .ok event =>
    match decodeBody event >>= Query.parse with
    | .ok _ => (d.validate (credentials event) caches).2.2
    | .error _ => []
  | _, _ => []

theorem Understood.said_eq (m : Understood d arrival) (caches : Caches) :
    said d arrival caches = (d.validate (credentials m.event) caches).2.2 := by
  rw [said, m.opened, m.addressed]
  simp only [m.understood]

/-! ## The records at the milestones -/

section Milestones
variable (id : Value)

/-- The record of the access, if these are kept. -/
def Noted.access (m : Noted d arrival caches) : List Log.Record :=
  m.shown.toList.map (accessRecord (idOf id m.event) m.query)

theorem Understood.records_eq (m : Understood d arrival) (caches : Caches) :
    recordsOf (m.asked id caches).trace = said d arrival caches := by
  rw [m.said_eq]
  exact recordsOf_addRecords ..

theorem Noted.records_eq (m : Noted d arrival caches) :
    recordsOf (m.run id).trace = said d arrival caches ++ m.access id := by
  rw [run, recordsOf_addRecords, recordsOf_add _ rfl]
  exact congrArg (· ++ _) (m.toUnderstood.records_eq id caches)

theorem Equipped.records_eq (m : Equipped d arrival caches) :
    recordsOf (m.dispatching id).trace = said d arrival caches ++ m.access id := by
  show recordsOf ((((m.toNoted.run id).add _).add _).add _).trace = _
  rw [recordsOf_add _ rfl, recordsOf_add _ rfl, recordsOf_add _ rfl, m.toNoted.records_eq]

theorem Dispatched.records_eq (m : Dispatched d arrival caches) :
    recordsOf (m.starting id).trace = said d arrival caches ++ m.access id := by
  show recordsOf (((m.toEquipped.dispatching id).add _).add _).trace = _
  rw [recordsOf_add _ rfl, recordsOf_add _ rfl, m.toEquipped.records_eq]

theorem Started.records_eq (m : Started d arrival caches) :
    recordsOf (m.performed id).2.2.trace = said d arrival caches ++ m.access id := by
  show recordsOf (((m.toDispatched.starting id).add (.awaiting theExecution)).add
    (.running theExecution)).trace = _
  rw [recordsOf_add _ rfl, recordsOf_add _ rfl, m.toDispatched.records_eq]

theorem Written.records_eq (m : Written d arrival caches) :
    recordsOf (m.run id).trace = said d arrival caches ++ m.access id := by
  rw [run, recordsOf_add _ rfl, m.toStarted.records_eq]

end Milestones

/-! ## The records at the outcome -/

/-- An invocation that failed has left no record of its own but that of the access. -/
theorem Passage.records_error {id : Value} {c : Course} (p : Passage d arrival caches id c)
    {f : Failure} (h : c.outcome = .error f) :
    recordsOf c.run.trace = said d arrival caches ∨
      ∃ m : Noted d arrival caches,
        recordsOf c.run.trace = said d arrival caches ++ m.access id := by
  cases p with
  | unopened f closed =>
      rw [said, closed]
      exact .inl rfl
  | rejected m x closed =>
      rw [said, m.opened, closed]
      exact .inl rfl
  | misunderstood m f closed =>
      rw [said, m.opened, m.addressed]
      simp only [closed]
      exact .inl rfl
  | refused m => exact .inl (m.records_eq id caches)
  | unnoted m =>
      rw [recordsOf_add _ rfl]
      exact .inl (m.toUnderstood.records_eq id caches)
  | unequipped m =>
      refine .inr ⟨m, ?_⟩
      show recordsOf ((m.run id).add _).trace = _
      rw [recordsOf_add _ rfl, m.records_eq]
  | undispatched m => exact .inr ⟨m.toNoted, m.records_eq id⟩
  | startedBefore m =>
      rw [recordsOf_add _ rfl]
      exact .inr ⟨m.toNoted, m.toEquipped.records_eq id⟩
  | unstarted m => exact .inr ⟨m.toNoted, m.records_eq id⟩
  | unperformed m => exact .inr ⟨m.toNoted, m.records_eq id⟩
  | unwritten m => exact .inr ⟨m.toNoted, m.toStarted.records_eq id⟩
  | unanswered m => exact .inr ⟨m.toNoted, m.records_eq id⟩
  | answered m response => cases h

/-- An invocation that succeeded has recorded so, once and at the end. -/
theorem Passage.records_ok {id : Value} {c : Course} (p : Passage d arrival caches id c)
    {response : Response} (h : c.outcome = .ok response) :
    ∃ m : Written d arrival caches, m.response = .ok response ∧
      recordsOf c.run.trace = said d arrival caches ++ m.access id ++
        [executedRecord (idOf id m.event) m.query m.result] := by
  cases p with
  | answered m _ made =>
      cases h
      refine ⟨m, made, ?_⟩
      show recordsOf (_ ++ [_].map Deed.record) = _
      rw [recordsOf_records, m.records_eq]
  | _ => cases h

theorem handle_records (d : Deployment) (arrival : Arrival) (requestId : Value) (fresh : Text)
    (caches : Caches) :
    let c := course d arrival (initialId requestId fresh) caches
    recordsOf (handle d arrival requestId fresh caches).run.trace =
      recordsOf c.run.trace ++ closingRecords d c.outcome c.run := by
  intro c
  rw [handle_trace, recordsOf_records]

end QueryGateway.Invocation
