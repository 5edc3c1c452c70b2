import QueryGateway.Proofs.Execution.Lifecycle
import QueryGateway.Proofs.Invocation.Closing
import QueryGateway.Proofs.Invocation.Isolation

/-!
# Which callbacks run behind the eviction

The adapter waits for the execution like any callback, and it evicts its cache when its turn comes.
So what was registered before it waited runs in front of the eviction, and what the engine registers
while the execution runs comes behind it. And if the start failed nobody waits: the execution is
asked to end, the cache is emptied, and then the loop takes up the execution, whose step is still
due. It ends without having begun, and only now do the callbacks learn of that.

What the loop has still to do is `Rest`, and `Rest.closed` says what comes of it: because the
execution was asked to end, nothing but those callbacks.

`Aftermath` says so of an invocation, exactly: which callbacks are left when it returns, and what
those that are not left did to the cache that is emptied. That nothing of an invocation survives
holds if those that are left spare the cache, and fails if they do not (`callback_survives`).

What is NOT here: callbacks that register callbacks. Those of an invocation only change the caches.
-/

namespace QueryGateway.Invocation

open Execution (CacheName Context Future Loop)

/-! ## Callbacks in a queue -/

/-- A queue of callbacks. -/
abbrev queueOf (effects : List CacheEffect) : List (Subscriber × Text) :=
  effects.map fun effect => (.callback effect, theExecution)

theorem splitAtAdapter_callbacks (effects : List CacheEffect) (rest : List (Subscriber × Text)) :
    splitAtAdapter (queueOf effects ++ rest) =
      (effects ++ (splitAtAdapter rest).1, (splitAtAdapter rest).2) := by
  induction effects with
  | nil => rfl
  | cons effect more ih =>
      show splitAtAdapter ((.callback effect, theExecution) :: (queueOf more ++ rest)) = _
      simp only [splitAtAdapter, ih, List.cons_append]

theorem splitAtAdapter_adapter (effects : List CacheEffect) :
    splitAtAdapter ((.adapter, theExecution) :: queueOf effects) = ([], effects) := by
  induction effects with
  | nil => rfl
  | cons effect more ih =>
      have behind : (splitAtAdapter ((.adapter, theExecution) :: queueOf more)).2 = more := by
        rw [ih]
      exact congrArg (fun effects => ([], effect :: effects)) behind

/-! ## The callbacks of a first start -/

section Milestones
variable {d : Deployment} {arrival : Arrival} {caches : Caches} (id : Value)

/-- The callbacks that a first start hands to the execution. -/
abbrev Dispatched.handed (m : Dispatched d arrival caches) : List CacheEffect :=
  m.context.pending ++ m.hook.1.adds

theorem Dispatched.begun_loop (m : Dispatched d arrival caches)
    (created : m.context.stage = .created) :
    m.begun.2.future theExecution = ⟨none, m.handed.map .callback⟩ ∧ m.begun.2.queue = [] := by
  have begun : m.begun.2 =
      (Loop.idle.subscribeAll theExecution (m.context.pending.map .callback)).subscribeAll
        theExecution (m.hook.1.adds.map .callback) := by
    rw [Dispatched.begun, Context.start_created (c := asSubscribers m.context) created]
    rfl
  have idle : (Loop.idle : Loop Result Subscriber).future theExecution = ⟨none, []⟩ := rfl
  obtain ⟨first, -, empty⟩ :=
    Loop.subscribeAll_running idle (m.context.pending.map Subscriber.callback)
  obtain ⟨both, -, still⟩ := Loop.subscribeAll_running first (m.hook.1.adds.map Subscriber.callback)
  rw [begun, Dispatched.handed, List.map_append]
  exact ⟨both, still.trans empty⟩

/-- After a first start the execution has not ended. -/
theorem Dispatched.starting_pending (m : Dispatched d arrival caches)
    (created : m.context.stage = .created) : leavesBehind (m.starting id) = true := by
  obtain ⟨waiting, -⟩ := m.begun_loop created
  show (!(m.begun.2.future theExecution).outcome.isSome) = true
  rw [waiting]
  rfl

end Milestones

/-! ## The step of an execution -/

section Step
variable {e : PendingExecution} {r : Run} {line : List Subscriber}

/-- The subscribers of the execution in a queue. -/
abbrev lineUp (line : List Subscriber) : List (Subscriber × Text) :=
  line.map fun s => (s, theExecution)

/-- An execution that runs to its end queues those who wait for it, and those that it adds behind
them. -/
theorem takeStep_runs (live : r.cancelling = false)
    (waiting : r.loop.future theExecution = ⟨none, line⟩) (idle : r.loop.queue = [])
    {outcome : Except Failure Result} {left : Caches} {added : List CacheEffect}
    (ran : e.run r.caches = (outcome, left, added)) :
    ∃ loop, takeStep e r =
        (outcome, { r.add (.running theExecution) with due := none, caches := left, loop }) ∧
      loop.queue = lineUp (line ++ added.map .callback) ∧
      loop.outcome? theExecution = some (outcomeOf outcome) := by
  obtain ⟨lined, -, still⟩ := Loop.subscribeAll_running waiting (added.map Subscriber.callback)
  obtain ⟨loop, completed, queue, ended⟩ := Loop.exists_complete? lined (outcomeOf outcome)
  rw [still, idle, List.nil_append] at queue
  refine ⟨loop, ?_, queue, ended⟩
  simp only [takeStep, live, Bool.false_eq_true, if_false, ran, completed, Option.getD_some]

/-- An execution that was asked to end does so before it begins. -/
theorem takeStep_ends (asked : r.cancelling = true)
    (waiting : r.loop.future theExecution = ⟨none, line⟩) (idle : r.loop.queue = []) :
    ∃ loop, takeStep e r = (.error .cancellation, { r with due := none, loop }) ∧
      loop.queue = lineUp line ∧ loop.outcome? theExecution = some .cancelled := by
  obtain ⟨loop, completed, queue, ended⟩ := Loop.exists_complete? waiting .cancelled
  rw [idle, List.nil_append] at queue
  refine ⟨loop, ?_, queue, ended⟩
  simp only [takeStep, asked, if_true, completed, Option.getD_some]

end Step

section Milestones
variable {d : Deployment} {arrival : Arrival} {caches : Caches} (id : Value)

/-- The execution of an invocation, when the engine leaves `left` and adds `added`: those that were
handed over run first, then the adapter goes on, and those that were added are left. -/
theorem Started.performed_eq (m : Started d arrival caches) {outcome : Except Failure Result}
    {left : Caches} {added : List CacheEffect}
    (ran : m.execution.run m.hook.2 = (outcome, left, added)) :
    ∃ loop, m.performed id = (outcome, added,
        { ((m.run id).add (.awaiting theExecution)).add (.running theExecution) with
          due := none, caches := applyAll m.handed left, loop }) ∧
      loop.queue = [] ∧ loop.outcome? theExecution = some (outcomeOf outcome) := by
  obtain ⟨handed, idle⟩ := m.begun_loop m.created
  have subscribed : m.begun.2.subscribe theExecution .adapter =
      m.begun.2.setFuture theExecution ⟨none, m.handed.map .callback ++ [.adapter]⟩ :=
    Loop.subscribe_running handed .adapter
  have waiting : (await (m.run id)).loop.future theExecution =
      ⟨none, m.handed.map .callback ++ [.adapter]⟩ := by
    show (m.begun.2.subscribe theExecution .adapter).future theExecution = _
    rw [subscribed, Loop.future_setFuture]
  have empty : (await (m.run id)).loop.queue = [] := by
    show (m.begun.2.subscribe theExecution .adapter).queue = []
    rw [subscribed]
    exact idle
  obtain ⟨loop, stepped, queue, ended⟩ :=
    takeStep_runs (r := await (m.run id)) rfl waiting empty ran
  have line : lineUp (m.handed.map .callback ++ [.adapter] ++ added.map .callback) =
      queueOf m.handed ++ (.adapter, theExecution) :: queueOf added := by
    simp [lineUp, queueOf, Function.comp_def]
  have split : splitAtAdapter loop.queue = (m.handed, added) := by
    rw [queue, line, splitAtAdapter_callbacks, splitAtAdapter_adapter, List.append_nil]
  refine ⟨{ loop with queue := [] }, ?_, rfl, ended⟩
  rw [Started.performed, perform, stepped]
  simp only [wake, Loop.turn, split]
  rfl

end Milestones

/-! ## What the loop has still to do -/

/-- What the loop has still to do for an invocation at its outcome: these callbacks are to run. -/
inductive Rest (c : Course) (effects : List CacheEffect) : Prop
  /-- They stand behind the adapter. -/
  | behind : leavesBehind c.run = false → c.run.due = none → c.run.loop.queue = [] →
      c.behind = effects → Rest c effects
  /-- They wait for the execution, and its step is due. -/
  | due (e : PendingExecution) : leavesBehind c.run = true → c.run.due = some e →
      c.run.loop.future theExecution = ⟨none, effects.map .callback⟩ → c.run.loop.queue = [] →
      c.behind = [] → Rest c effects

/-- What has come of an invocation when the loop has nothing more to do: these callbacks have run,
and nothing else has. -/
structure Closed (v : Visit) (effects : List CacheEffect) : Prop where
  left : v.left = effects
  caches : v.settledCaches = applyAll effects v.run.caches
  trace : v.settled.trace = v.run.trace

section Rest
variable {c : Course} {effects : List CacheEffect}

/-- An execution whose step is still due when the invocation returns was asked to end, so it never
begins. -/
theorem closed_due {v : Visit} {e : PendingExecution} (due : v.run.due = some e)
    (asked : v.run.cancelling = true)
    (waiting : v.run.loop.future theExecution = ⟨none, effects.map .callback⟩)
    (idle : v.run.loop.queue = []) (alone : v.behind = []) :
    Closed v effects ∧ v.execution? = some .cancelled := by
  obtain ⟨loop, stepped, queue, ended⟩ := takeStep_ends (e := e) asked waiting idle
  have taken : v.stepped = { v.run with due := none, loop } := by
    simp only [Visit.stepped, alone, due]
    exact congrArg Prod.snd stepped
  have line : lineUp (effects.map .callback) = queueOf effects ++ [] := by
    simp [lineUp, queueOf, Function.comp_def]
  have split : splitAtAdapter v.stepped.loop.queue = (effects, []) := by
    rw [taken]
    show splitAtAdapter loop.queue = _
    rw [queue, line, splitAtAdapter_callbacks]
    exact congrArg (·, []) (List.append_nil _)
  have settled : v.settled = { v.stepped with
      caches := applyAll effects v.stepped.caches, loop := { loop with queue := [] } } := by
    simp only [Visit.settled, wake, Loop.turn, split]
    rw [taken]
  refine ⟨⟨?_, ?_, ?_⟩, ?_⟩
  · rw [Visit.left, alone, split, List.nil_append]
  · rw [Visit.settledCaches, settled, taken]
  · rw [settled, taken]
  · rw [Visit.execution?, settled]
    exact ended

theorem closed_behind {v : Visit} (none : v.run.due = none) (idle : v.run.loop.queue = []) :
    Closed v v.behind ∧ v.execution? = v.run.loop.outcome? theExecution := by
  have kept : v.stepped = { v.run with caches := applyAll v.behind v.run.caches } := by
    simp only [Visit.stepped, none]
  have split : splitAtAdapter v.stepped.loop.queue = ([], []) := by
    rw [kept, idle]
    rfl
  have settled : v.settled = { v.stepped with loop := { v.stepped.loop with queue := [] } } := by
    simp only [Visit.settled, wake, Loop.turn, split]
    rfl
  refine ⟨⟨?_, ?_, ?_⟩, ?_⟩
  · rw [Visit.left, split, List.append_nil]
  · rw [Visit.settledCaches, settled, kept]
  · rw [settled, kept]
  · rw [Visit.execution?, settled, kept]
    rfl

/-- Behind the clean-up the loop runs the callbacks that are to run, and no execution: one that was
left behind ends cancelled. -/
theorem Rest.closed (rest : Rest c effects) (d : Deployment) :
    Closed (close d c.outcome c.behind c.run) effects ∧
      (close d c.outcome c.behind c.run).execution? =
        if leavesBehind c.run then some .cancelled else c.run.loop.outcome? theExecution := by
  have closing := close_run d c.outcome c.behind c.run
  generalize visit : close d c.outcome c.behind c.run = v at closing
  have behind : v.behind = c.behind := visit ▸ rfl
  cases rest with
  | behind ended none idle here =>
      rw [← here, ← behind, ended]
      obtain ⟨closed, execution⟩ := closed_behind (v := v) (by rw [closing]; exact none)
        (by rw [closing]; exact idle)
      exact ⟨closed, by rw [execution, closing]; rfl⟩
  | due e left due waiting idle alone =>
      rw [left]
      exact closed_due (e := e) (by rw [closing]; exact due) (by rw [closing, left]; rfl)
        (by rw [closing]; exact waiting) (by rw [closing]; exact idle) (behind.trans alone)

end Rest

/-! ## What is left -/

variable {d : Deployment} {arrival : Arrival} {caches : Caches}

variable (d arrival caches) in
/-- What becomes of the callbacks of an invocation, at its outcome. -/
inductive Fate (c : Course) : Prop
  /-- No context was started with the execution, so there are no callbacks. -/
  | unused : (∀ m : Dispatched d arrival caches, m.context.stage ≠ .created) → Rest c [] → Fate c
  /-- The start failed: all callbacks are still to learn of the cancellation. -/
  | unstarted (m : Dispatched d arrival caches) (f : Failure) : m.context.stage = .created →
      m.hook.1.outcome = .error f → Rest c m.handed → Fate c
  /-- The execution ended: those that were added meanwhile are left. -/
  | awaited (m : Started d arrival caches) : Rest c (m.execution.run m.hook.2).2.2 →
      c.run.caches = applyAll m.handed (m.execution.run m.hook.2).2.1 → Fate c

theorem Started.fate (m : Started d arrival caches) {id : Value} {c : Course}
    (behind : c.behind = (m.performed id).2.1) (due : c.run.due = (m.performed id).2.2.due)
    (caches_eq : c.run.caches = (m.performed id).2.2.caches)
    (loop_eq : c.run.loop = (m.performed id).2.2.loop) : Fate d arrival caches c := by
  obtain ⟨loop, performed, idle, ended⟩ := m.performed_eq id rfl
  rw [performed] at behind due caches_eq loop_eq
  have still : leavesBehind c.run = false := by
    rw [leavesBehind, Loop.isDone, loop_eq, ended]
    exact Bool.and_false _
  exact .awaited m (.behind still due (by rw [loop_eq, idle]) behind) caches_eq

theorem Passage.fate {id : Value} {c : Course} (p : Passage d arrival caches id c) :
    Fate d arrival caches c := by
  cases p with
  | unopened f h =>
      exact .unused (fun m => nomatch h.symm.trans m.opened) (.behind rfl rfl rfl rfl)
  | rejected m x h =>
      exact .unused (fun m => nomatch h.symm.trans m.addressed) (.behind rfl rfl rfl rfl)
  | misunderstood m f h =>
      refine .unused (fun m' => ?_) (.behind rfl rfl rfl rfl)
      cases Subsingleton.elim m m'.toAddressed
      exact nomatch h.symm.trans m'.understood
  | refused m f h =>
      refine .unused (fun m' => ?_) (.behind rfl rfl rfl rfl)
      cases Subsingleton.elim m m'.toUnderstood
      exact nomatch h.symm.trans m'.admitted
  | unnoted m f h =>
      refine .unused (fun m' => ?_) (.behind rfl rfl rfl rfl)
      cases Subsingleton.elim m m'.toAdmitted
      exact nomatch h.symm.trans m'.noted
  | unequipped m f h =>
      refine .unused (fun m' => ?_) (.behind rfl rfl rfl rfl)
      cases Subsingleton.elim m m'.toNoted
      exact nomatch h.symm.trans m'.equipped
  | undispatched m f h =>
      refine .unused (fun m' => ?_) (.behind rfl rfl rfl rfl)
      cases Subsingleton.elim m m'.toEquipped
      exact nomatch h.symm.trans m'.dispatched
  | startedBefore m started =>
      refine .unused (fun m' => ?_) (.due m.execution rfl rfl rfl rfl rfl)
      cases Subsingleton.elim m m'
      rw [started]
      exact nofun
  | unstarted m f created h =>
      obtain ⟨waiting, idle⟩ := m.begun_loop created
      exact .unstarted m f created h
        (.due m.execution (m.starting_pending id created) rfl waiting idle rfl)
  | unperformed m => exact m.fate rfl rfl rfl rfl
  | unwritten m => exact m.toStarted.fate rfl rfl rfl rfl
  | unanswered m => exact m.toStarted.fate rfl rfl rfl rfl
  | answered m => exact m.toStarted.fate rfl rfl rfl rfl

theorem Fate.rest {c : Course} (fate : Fate d arrival caches c) : ∃ effects, Rest c effects := by
  cases fate with
  | unused _ rest => exact ⟨_, rest⟩
  | unstarted _ _ _ _ rest => exact ⟨_, rest⟩
  | awaited _ rest => exact ⟨_, rest⟩

/-- An effect puts nothing into an empty cache. -/
def Spares (name : CacheName) (effect : CacheEffect) : Prop :=
  ∀ cs : Caches, cs name = Cache.empty → effect cs name = Cache.empty

theorem applyAll_spares {name : CacheName} {effects : List CacheEffect}
    (h : ∀ effect ∈ effects, Spares name effect) {cs : Caches} (empty : cs name = Cache.empty) :
    applyAll effects cs name = Cache.empty := by
  induction effects generalizing cs with
  | nil => exact empty
  | cons effect rest ih =>
      have first := h effect List.mem_cons_self cs empty
      exact ih (fun effect mem => h effect (List.mem_cons_of_mem _ mem)) first

variable (d arrival caches) in
/-- What is left of an invocation that has returned. -/
structure Aftermath (v : Visit) : Prop where
  /-- The cache of the adapter is empty when the invocation returns. -/
  evicted : v.run.caches d.cache = Cache.empty
  /-- If the context was started, all its callbacks have run by then, and what they put into that
  cache is gone. Only those are left that the engine added. -/
  awaited : ∀ m : Started d arrival caches,
    v.run.caches = (applyAll m.handed (m.execution.run m.hook.2).2.1).set d.cache Cache.empty ∧
      v.left = (m.execution.run m.hook.2).2.2
  /-- If the start failed, all callbacks are left. -/
  unstarted : ∀ m : Dispatched d arrival caches, m.context.stage = .created →
    ∀ f, m.hook.1.outcome = .error f → v.left = m.handed
  /-- Otherwise there are none. -/
  unused : (∀ m : Dispatched d arrival caches, m.context.stage ≠ .created) → v.left = []
  /-- When those that are left have run the cache is still empty, if they spare it. -/
  spared : (∀ effect ∈ v.left, Spares d.cache effect) → v.settledCaches d.cache = Cache.empty

/-- What is left of an invocation: the callbacks that the engine added, or all of them if the start
failed. Nothing else can reach the next invocation. -/
theorem handle_aftermath (requestId : Value) (fresh : Text) :
    Aftermath d arrival caches (handle d arrival requestId fresh caches) := by
  let c := course d arrival (initialId requestId fresh) caches
  have fate : Fate d arrival caches c := (course_passage ..).fate
  have emptied : (handle d arrival requestId fresh caches).run.caches =
      c.run.caches.set d.cache Cache.empty := by
    rw [handle, close_run]
  have evicted := handle_evicts d arrival requestId fresh caches
  have left {effects : List CacheEffect} (rest : Rest c effects) :
      (handle d arrival requestId fresh caches).left = effects := (rest.closed d).1.left
  refine ⟨evicted, fun m => ?_, fun m created f failed => ?_, fun none => ?_, fun spare => ?_⟩
  · cases fate with
    | unused none => exact absurd m.created (none m.toDispatched)
    | unstarted m' f created failed =>
        cases Subsingleton.elim m.toDispatched m'
        cases m.started.symm.trans failed
    | awaited m' rest ran =>
        cases Subsingleton.elim m m'
        rw [emptied, ran]
        exact ⟨rfl, left rest⟩
  · cases fate with
    | unused none => exact absurd created (none m)
    | unstarted m' f created failed rest =>
        cases Subsingleton.elim m m'
        exact left rest
    | awaited m' =>
        cases Subsingleton.elim m m'.toDispatched
        cases m'.started.symm.trans failed
  · cases fate with
    | unused _ rest => exact left rest
    | unstarted m f created => exact absurd created (none m)
    | awaited m => exact absurd m.created (none m.toDispatched)
  · obtain ⟨effects, rest⟩ := fate.rest
    obtain ⟨closed, -⟩ := rest.closed d
    rw [left rest] at spare
    show (close d c.outcome c.behind c.run).settledCaches d.cache = Cache.empty
    rw [closed.caches]
    exact applyAll_spares spare evicted

/-! ## Callbacks that do not spare the cache -/

open Rehearsal in
/-- A callback that leaves an entry in the cache. -/
def leaveLateEntry : CacheEffect := fun caches =>
  (leaveIn (.own 0) [(.text "late", .bool true)] caches).2

open Rehearsal in
/-- An engine that adds such a callback while it runs. -/
def lateCallbackDeployment : Deployment :=
  { cachingDeployment none with
    dispatch := fun _ _ _ caches =>
      (.ok ⟨fun caches => (.ok ⟨.null, none, .null⟩, caches, [leaveLateEntry])⟩, caches) }

open Rehearsal in
/-- A hook that adds such a callback and fails. -/
def failingHookDeployment : Deployment :=
  { cachingDeployment none with
    hook := fun _ _ caches => (⟨[leaveLateEntry], .error (.plain "RuntimeError" "no")⟩, caches) }

open Rehearsal in
/-- What such callbacks write outlives the invocation, whether it succeeds or its start fails. -/
theorem callback_survives :
    (handle lateCallbackDeployment (.event helloEvent) .null "id" Caches.empty).settledCaches
        lateCallbackDeployment.cache ≠ Cache.empty ∧
      (handle failingHookDeployment (.event helloEvent) .null "id" Caches.empty).settledCaches
        failingHookDeployment.cache ≠ Cache.empty := by
  have filled : ∀ {c : Cache}, c.nonempty = true → c ≠ Cache.empty := by
    rintro c nonempty rfl
    cases nonempty
  exact ⟨filled (by decide +kernel), filled (by decide +kernel)⟩

end QueryGateway.Invocation
