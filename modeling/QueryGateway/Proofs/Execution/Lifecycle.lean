import QueryGateway.Execution.Context

/-!
# The life of a context

A context is created, waits, and is started once. What is registered with it is never lost: at every
moment the callbacks that were registered stand, in the order of their registration, in at most two
of four places, which are those that have run, the queue of the loop, the execution and the context
itself. `Phase` says in which, with one constructor for each phase of a life:

    created   the context holds them, and nobody else knows of them
    running   the execution holds them
    ended     they are in the queue, behind those that have run

`act_phase` is the step: an act leads from a phase to a phase, and what it registers comes to the
end of the line. `run_phase` is the run. All that is said about a context is read off the phase.

What is NOT here: failures of callbacks. They are nobody's outcome, and a callback that fails runs
and registers like any other.
-/

namespace QueryGateway.Execution

/-! ## Executions by name -/

namespace Loop

variable {α σ : Type}

theorem future_setFuture (l : Loop α σ) (name : Text) (f : Future α σ) :
    (l.setFuture name f).future name = f := by
  simp [future, setFuture]

theorem future_setFuture_of_ne (l : Loop α σ) {name other : Text} (f : Future α σ)
    (h : other ≠ name) : (l.setFuture name f).future other = l.future other := by
  have same : ((l.futures.filter fun g => g.1 ≠ name).find? fun g => g.1 = other) =
      l.futures.find? fun g => g.1 = other := by
    rw [List.find?_filter]
    congr 1
    funext g
    by_cases here : g.1 = other <;> simp [here, h]
  simp only [future, setFuture, List.find?_cons]
  rw [same]
  simp [h.symm]

/-! ## Subscribing -/

/-- Whoever comes while the execution runs waits behind those who wait. -/
theorem subscribe_running {l : Loop α σ} {name : Text} {waiting : List σ}
    (h : l.future name = ⟨none, waiting⟩) (s : σ) :
    l.subscribe name s = l.setFuture name ⟨none, waiting ++ [s]⟩ := by
  simp only [subscribe, h]

/-- Whoever comes after the end is queued at once. -/
theorem subscribe_ended {l : Loop α σ} {name : Text} {outcome : Outcome α}
    (h : l.outcome? name = some outcome) (s : σ) :
    l.subscribe name s = { l with queue := l.queue ++ [(s, name)] } := by
  simp only [outcome?] at h
  simp only [subscribe, h]

/-- What subscribing several to a running execution changes: they wait behind those who wait. -/
theorem subscribeAll_running {l : Loop α σ} {name : Text} {waiting : List σ}
    (h : l.future name = ⟨none, waiting⟩) (subscribers : List σ) :
    (l.subscribeAll name subscribers).future name = ⟨none, waiting ++ subscribers⟩ ∧
      (∀ other, other ≠ name →
        (l.subscribeAll name subscribers).future other = l.future other) ∧
      (l.subscribeAll name subscribers).queue = l.queue := by
  induction subscribers generalizing l waiting with
  | nil =>
      rw [List.append_nil]
      exact ⟨h, fun _ _ => rfl, rfl⟩
  | cons s rest ih =>
      have first := subscribe_running h s
      have later : (l.subscribe name s).future name = ⟨none, waiting ++ [s]⟩ := by
        rw [first, future_setFuture]
      obtain ⟨here, elsewhere, queue⟩ := ih later
      rw [List.append_assoc, List.singleton_append] at here
      refine ⟨here, fun other ne => (elsewhere other ne).trans ?_, queue.trans ?_⟩
      · rw [first, future_setFuture_of_ne l _ ne]
      · rw [first]
        rfl

theorem subscribeAll_ended {l : Loop α σ} {name : Text} {outcome : Outcome α}
    (h : l.outcome? name = some outcome) (subscribers : List σ) :
    l.subscribeAll name subscribers =
      { l with queue := l.queue ++ subscribers.map fun s => (s, name) } := by
  induction subscribers generalizing l with
  | nil => simp [subscribeAll]
  | cons s rest ih =>
      let queued : Loop α σ := { l with queue := l.queue ++ [(s, name)] }
      have still : queued.outcome? name = some outcome := h
      show (l.subscribe name s).subscribeAll name rest = _
      rw [subscribe_ended h, ih still]
      simp [queued]

/-! ## Ending -/

theorem complete?_running {l : Loop α σ} {name : Text} {waiting : List σ}
    (h : l.future name = ⟨none, waiting⟩) (outcome : Outcome α) :
    l.complete? name outcome =
      some { l.setFuture name ⟨some outcome, []⟩ with
        queue := l.queue ++ waiting.map fun s => (s, name) } := by
  simp only [complete?, h]
  rfl

/-- When an execution ends those who wait for it are queued in their order. -/
theorem exists_complete? {l : Loop α σ} {name : Text} {waiting : List σ}
    (h : l.future name = ⟨none, waiting⟩) (outcome : Outcome α) :
    ∃ ended, l.complete? name outcome = some ended ∧
      ended.queue = l.queue ++ waiting.map (fun s => (s, name)) ∧
      ended.outcome? name = some outcome :=
  ⟨_, complete?_running h outcome, rfl, congrArg Future.outcome (future_setFuture ..)⟩

theorem complete?_ended {l : Loop α σ} {name : Text} {ended : Outcome α}
    (h : l.outcome? name = some ended) (outcome : Outcome α) :
    l.complete? name outcome = none := by
  simp only [outcome?] at h
  simp only [complete?, h]

end Loop

/-! ## Adding to a context that was started -/

theorem Context.addAll_started {α σ : Type} {c : Context σ} {name : Text}
    (h : c.execution = some name) (l : Loop α σ) (callbacks : List σ) :
    c.addAll l callbacks = (c, l.subscribeAll name callbacks) := by
  induction callbacks generalizing l with
  | nil => rfl
  | cons s rest ih =>
      have first : c.add l s = (c, l.subscribe name s) := by simp only [add, h]
      show rest.foldl _ (c.add l s) = _
      rw [first]
      exact ih _

/-! ## Generations

A callback adds callbacks that add callbacks, but only so many generations of them. A turn runs one
generation. -/

mutual

/-- How many generations of callbacks a callback brings forth, itself counted in. -/
def Callback.generations : Callback → Nat
  | .make _ adds _ => generationsOf adds + 1

/-- How many generations several callbacks bring forth. -/
def generationsOf : List Callback → Nat
  | [] => 0
  | c :: rest => max c.generations (generationsOf rest)

end

theorem Callback.generations_eq (c : Callback) : c.generations = generationsOf c.adds + 1 := by
  cases c
  rfl

theorem generationsOf_append (cs ds : List Callback) :
    generationsOf (cs ++ ds) = max (generationsOf cs) (generationsOf ds) := by
  induction cs with
  | nil => simp [generationsOf]
  | cons c rest ih => simp only [List.cons_append, generationsOf, ih, Nat.max_assoc]

theorem generationsOf_adds (cs : List Callback) :
    generationsOf (cs.flatMap Callback.adds) = generationsOf cs - 1 := by
  induction cs with
  | nil => rfl
  | cons c rest ih =>
      rw [List.flatMap_cons, generationsOf_append, ih, generationsOf, c.generations_eq]
      omega

theorem eq_nil_of_generationsOf {cs : List Callback} (h : generationsOf cs = 0) : cs = [] := by
  cases cs with
  | nil => rfl
  | cons c rest =>
      rw [generationsOf, c.generations_eq] at h
      omega

/-- What the first start does: the callbacks that wait are handed to the execution, and those of the
hook behind them. -/
theorem Context.start_created {α σ : Type} {c : Context σ} (created : c.stage = .created)
    (l : Loop α σ) (execution : Text) (hook : Context.Hook σ) :
    c.start l execution hook =
      (hook.outcome,
        { c with
          stage := .started, execution := some execution, pending := []
          hookRuns := c.hookRuns + 1 },
        (l.subscribeAll execution c.pending).subscribeAll execution hook.adds) := by
  simp only [start, created]
  rw [addAll_started rfl]

namespace Scene

variable (hook : Context.Hook Callback)

/-! ## Runs and registrations -/

/-- The scene after one act. -/
def after (s : Scene) (a : Act) : Scene := (s.act hook a).2

/-- The scene after several acts. -/
def run (s : Scene) (acts : List Act) : Scene := acts.foldl (after hook) s

/-- What an act registers: a callback that is added, those of the hook if it is run, and in a turn
those that the callbacks of the queue add. -/
def registers (s : Scene) : Act → List Callback
  | .add callback => [callback]
  | .start _ => if s.context.isStarted then [] else hook.adds
  | .complete .. | .cancel _ => []
  | .turn => (s.loop.queue.map (·.1)).flatMap Callback.adds

/-- What several acts register, in order. -/
def registered (s : Scene) : List Act → List Callback
  | [] => []
  | a :: acts => s.registers hook a ++ (s.after hook a).registered acts

/-! ## Single acts -/

/-- The end of an execution has an effect on the loop, and none if the execution has ended before. -/
theorem after_complete (s : Scene) (execution : Text) (outcome : Outcome Value) :
    s.after hook (.complete execution outcome) =
      { s with loop := (s.loop.complete? execution outcome).getD s.loop } := by
  simp only [after, act]
  cases s.loop.complete? execution outcome <;> rfl

/-- A cancellation is an end like any other. -/
theorem after_cancel (s : Scene) (execution : Text) :
    s.after hook (.cancel execution) = s.after hook (.complete execution .cancelled) := by
  simp only [after, act]
  cases s.loop.complete? execution .cancelled <;> rfl

/-- With an empty queue a turn does nothing. -/
theorem after_turn_idle {s : Scene} (idle : s.loop.queue = []) : s.after hook .turn = s := by
  obtain ⟨c, ⟨futures, queue⟩, called⟩ := s
  cases idle
  rfl

/-- Callbacks that run one after the other: each is noted with the outcome of its execution, and
what it adds is queued behind all that is in the queue. -/
theorem runCallbacks_ended {s : Scene} {execution : Text} {outcome : Outcome Value}
    (mine : s.context.execution = some execution)
    (ended : s.loop.outcome? execution = some outcome) (line : List Callback) :
    (line.map fun c => (c, execution)).foldl (fun s (c, e) => s.runCallback c e) s =
      ⟨s.context,
        ⟨s.loop.futures,
          s.loop.queue ++ (line.flatMap Callback.adds).map fun c => (c, execution)⟩,
        s.called ++ line.map fun c => (c.name, outcome)⟩ := by
  induction line generalizing s with
  | nil => simp
  | cons c rest ih =>
      let next : Scene :=
        ⟨s.context, ⟨s.loop.futures, s.loop.queue ++ c.adds.map fun c => (c, execution)⟩,
          s.called ++ [(c.name, outcome)]⟩
      have first : s.runCallback c execution = next := by
        simp only [runCallback, ended, Context.addAll_started mine,
          Loop.subscribeAll_ended ended, next]
      have mine : next.context.execution = some execution := mine
      have ended : next.loop.outcome? execution = some outcome := ended
      rw [List.map_cons, List.foldl_cons]
      show (rest.map _).foldl _ (s.runCallback c execution) = _
      rw [first, ih mine ended]
      simp [next]

/-- A turn with callbacks of an execution that has ended. -/
theorem after_turn_ended {s : Scene} {execution : Text} {outcome : Outcome Value}
    (mine : s.context.execution = some execution)
    (ended : s.loop.outcome? execution = some outcome) {line : List Callback}
    (queue : s.loop.queue = line.map fun c => (c, execution)) :
    s.after hook .turn =
      ⟨s.context,
        ⟨s.loop.futures, (line.flatMap Callback.adds).map fun c => (c, execution)⟩,
        s.called ++ line.map fun c => (c.name, outcome)⟩ := by
  let emptied : Scene := { s with loop := { s.loop with queue := [] } }
  have mine : emptied.context.execution = some execution := mine
  have ended : emptied.loop.outcome? execution = some outcome := ended
  show s.loop.queue.foldl _ emptied = _
  rw [queue]
  exact runCallbacks_ended mine ended line

/-! ## Phases -/

/-- Nobody waits for any execution. -/
def Unawaited (l : Loop Value Callback) (name : Text) : Prop := (l.future name).waiting = []

/-- Where the callbacks are that were registered, in order. -/
inductive Phase : Scene → List Callback → Prop
  | created (cache : CacheName) (l : Loop Value Callback) (line : List Callback) :
      (∀ name, Unawaited l name) → l.queue = [] →
      Phase ⟨⟨.created, none, line, cache, 0⟩, l, []⟩ line
  | running (cache : CacheName) (execution : Text) (l : Loop Value Callback)
      (line : List Callback) :
      l.future execution = ⟨none, line⟩ →
      (∀ name, name ≠ execution → Unawaited l name) → l.queue = [] →
      Phase ⟨⟨.started, some execution, [], cache, 1⟩, l, []⟩ line
  | ended (cache : CacheName) (execution : Text) (l : Loop Value Callback)
      (outcome : Outcome Value) (ran line : List Callback) :
      l.future execution = ⟨some outcome, []⟩ →
      (∀ name, name ≠ execution → Unawaited l name) →
      l.queue = line.map (fun c => (c, execution)) →
      Phase ⟨⟨.started, some execution, [], cache, 1⟩, l, ran.map fun c => (c.name, outcome)⟩
        (ran ++ line)

/-! ## From phase to phase -/

/-- Registering with a context that was started: the callbacks come to the end of the line. -/
theorem Phase.addAll {s : Scene} {line : List Callback} (phase : Phase s line)
    (started : s.context.stage = .started) (callbacks : List Callback) :
    Phase ⟨(s.context.addAll s.loop callbacks).1, (s.context.addAll s.loop callbacks).2, s.called⟩
      (line ++ callbacks) := by
  cases phase with
  | created => cases started
  | running cache execution l line here elsewhere queue =>
      rw [Context.addAll_started rfl]
      obtain ⟨waiting, others, unchanged⟩ := Loop.subscribeAll_running here callbacks
      refine .running cache execution _ _ waiting (fun name ne => ?_) (unchanged.trans queue)
      rw [Unawaited, others name ne]
      exact elsewhere name ne
  | ended cache execution l outcome ran line here elsewhere queue =>
      have ended : l.outcome? execution = some outcome := by rw [Loop.outcome?, here]
      rw [Context.addAll_started rfl, Loop.subscribeAll_ended ended, List.append_assoc]
      refine .ended cache execution _ outcome ran _ here elsewhere ?_
      simp [queue]

/-- The start of a context that was only created: its callbacks are handed to the execution,
whether that still runs or not, and those of the hook come behind them. -/
theorem Phase.start {s : Scene} {line : List Callback} (phase : Phase s line)
    (created : s.context.stage = .created) (execution : Text) :
    Phase (s.after hook (.start execution)) (line ++ hook.adds) := by
  cases phase with
  | running => cases created
  | ended => cases created
  | created cache l line unawaited idle =>
      let begun : Context Callback := ⟨.started, some execution, [], cache, 1⟩
      have handed : Phase ⟨begun, l.subscribeAll execution line, []⟩ line := by
        cases ended : (l.future execution).outcome with
        | none =>
            have free : l.future execution = ⟨none, []⟩ := by
              rw [← ended, ← unawaited execution]
            obtain ⟨waiting, others, unchanged⟩ := Loop.subscribeAll_running free line
            refine .running cache execution _ _ waiting (fun name ne => ?_) (unchanged.trans idle)
            rw [Unawaited, others name ne]
            exact unawaited name
        | some outcome =>
            have done : l.future execution = ⟨some outcome, []⟩ := by
              rw [← ended, ← unawaited execution]
            rw [Loop.subscribeAll_ended ended]
            refine .ended cache execution _ outcome [] line done (fun name _ => unawaited name) ?_
            simp [idle]
      exact handed.addAll rfl hook.adds

/-- Only an execution that runs can end. -/
theorem running_of_complete? {l ended : Loop Value Callback} {execution : Text}
    {outcome : Outcome Value} (h : l.complete? execution outcome = some ended) :
    (l.future execution).outcome = none := by
  cases before : (l.future execution).outcome with
  | none => rfl
  | some o =>
      rw [Loop.complete?_ended before] at h
      cases h

/-- An execution for which nobody waits ends unnoticed. -/
theorem Unawaited.complete {l ended : Loop Value Callback} {execution : Text}
    {outcome : Outcome Value} (free : Unawaited l execution)
    (h : l.complete? execution outcome = some ended) :
    ended = l.setFuture execution ⟨some outcome, []⟩ := by
  have free : l.future execution = ⟨none, []⟩ := by rw [← running_of_complete? h, ← free]
  rw [Loop.complete?_running free] at h
  cases h
  show Loop.mk _ (l.queue ++ []) = _
  rw [List.append_nil]
  rfl

theorem Unawaited.setFuture {l : Loop Value Callback} {name : Text} (free : Unawaited l name)
    (execution : Text) (outcome : Option (Outcome Value)) :
    Unawaited (l.setFuture execution ⟨outcome, []⟩) name := by
  by_cases this : name = execution
  · rw [this, Unawaited, Loop.future_setFuture]
  · rw [Unawaited, Loop.future_setFuture_of_ne _ _ this]
    exact free

/-- The end of an execution. That of the context queues the line that waits for it; nobody waits for
another one. -/
theorem Phase.completed {s : Scene} {line : List Callback} (phase : Phase s line)
    {execution : Text} {outcome : Outcome Value} {l : Loop Value Callback}
    (completed : s.loop.complete? execution outcome = some l) :
    Phase { s with loop := l } line := by
  cases phase with
  | created cache before line unawaited idle =>
      rw [(unawaited execution).complete completed]
      exact .created cache _ line (fun name => (unawaited name).setFuture _ _) idle
  | running cache mine before line here elsewhere idle =>
      by_cases this : execution = mine
      · subst this
        rw [Loop.complete?_running here] at completed
        cases completed
        refine .ended cache execution _ outcome [] line (Loop.future_setFuture ..)
          (fun name ne => ?_) ?_
        · exact (elsewhere name ne).setFuture _ _
        · show before.queue ++ _ = _
          rw [idle, List.nil_append]
      · rw [(elsewhere execution this).complete completed]
        refine .running cache mine _ line ?_ (fun name ne => (elsewhere name ne).setFuture _ _) idle
        rw [Loop.future_setFuture_of_ne _ _ (Ne.symm this)]
        exact here
  | ended cache mine before ended ran line here elsewhere queue =>
      have this : execution ≠ mine := by
        rintro rfl
        exact nomatch (congrArg Future.outcome here).symm.trans (running_of_complete? completed)
      rw [(elsewhere execution this).complete completed]
      refine .ended cache mine _ ended ran line ?_ (fun name ne => (elsewhere name ne).setFuture _ _)
        queue
      rw [Loop.future_setFuture_of_ne _ _ (Ne.symm this)]
      exact here

theorem Phase.complete {s : Scene} {line : List Callback} (phase : Phase s line)
    (execution : Text) (outcome : Outcome Value) :
    Phase { s with loop := (s.loop.complete? execution outcome).getD s.loop } line := by
  cases completed : s.loop.complete? execution outcome with
  | none => exact phase
  | some l => exact phase.completed completed

/-- A turn runs the queue, and what its callbacks add is the queue of the next turn. -/
theorem Phase.turn {s : Scene} {line : List Callback} (phase : Phase s line) :
    Phase (s.after hook .turn) (line ++ s.registers hook .turn) := by
  have unqueued {s : Scene} {line : List Callback} (idle : s.loop.queue = [])
      (phase : Phase s line) : Phase (s.after hook .turn) (line ++ s.registers hook .turn) := by
    rw [after_turn_idle hook idle]
    simpa only [registers, idle, List.map_nil, List.flatMap_nil, List.append_nil] using phase
  cases phase with
  | created cache l line unawaited idle => exact unqueued idle (.created cache l line unawaited idle)
  | running cache execution l line here elsewhere idle =>
      exact unqueued idle (.running cache execution l line here elsewhere idle)
  | ended cache execution l outcome ran line here elsewhere queue =>
      have ended : l.outcome? execution = some outcome := by rw [Loop.outcome?, here]
      have queued : (line.map fun c => (c, execution)).map (·.1) = line := by
        simp [Function.comp_def]
      rw [after_turn_ended hook rfl ended queue, registers, queue, queued, ← List.map_append]
      exact .ended cache execution _ outcome (ran ++ line) (line.flatMap Callback.adds) here
        elsewhere rfl

/-- An act leads from a phase to a phase, and what it registers comes to the end of the line. -/
theorem act_phase {s : Scene} {line : List Callback} (phase : Phase s line) (a : Act) :
    Phase (s.after hook a) (line ++ s.registers hook a) := by
  cases a with
  | add callback =>
      cases phase with
      | created cache l line unawaited idle => exact .created cache l _ unawaited idle
      | running cache execution l line here elsewhere idle =>
          exact (Phase.running cache execution l line here elsewhere idle).addAll rfl [callback]
      | ended cache execution l outcome ran line here elsewhere queue =>
          exact (Phase.ended cache execution l outcome ran line here elsewhere queue).addAll rfl
            [callback]
  | start execution =>
      cases stage : s.context.stage with
      | created =>
          have unstarted : s.context.isStarted = false := by rw [Context.isStarted, stage]; rfl
          rw [registers, unstarted]
          exact phase.start hook stage execution
      | started =>
          have started : s.context.isStarted = true := by rw [Context.isStarted, stage]; rfl
          have same : s.after hook (.start execution) = s := by
            simp only [after, act, Context.start, stage]
          rw [registers, started, same]
          simpa using phase
  | complete execution outcome =>
      rw [registers, List.append_nil, after_complete]
      exact phase.complete execution outcome
  | cancel execution =>
      rw [registers, List.append_nil, after_cancel, after_complete]
      exact phase.complete execution .cancelled
  | turn => exact phase.turn hook

theorem run_phase {s : Scene} {line : List Callback} (phase : Phase s line) (acts : List Act) :
    Phase (s.run hook acts) (line ++ s.registered hook acts) := by
  induction acts generalizing s line with
  | nil =>
      rw [registered, List.append_nil]
      exact phase
  | cons a rest ih =>
      rw [registered, ← List.append_assoc]
      exact ih (act_phase hook phase a)

theorem new_phase (cache : Option CacheName) : Phase (new cache) [] :=
  .created (cache.getD .process) .idle [] (fun _ => rfl) rfl

/-! ## The queue runs dry -/

/-- The callbacks that the next turn runs. -/
def queued (s : Scene) : List Callback := s.loop.queue.map (·.1)

theorem Phase.queued_turn {s : Scene} {line : List Callback} (phase : Phase s line) :
    (s.after hook .turn).queued = s.queued.flatMap Callback.adds := by
  cases phase with
  | created cache l line unawaited idle | running cache execution l line here elsewhere idle =>
      rw [after_turn_idle hook idle]
      simp only [queued, idle, List.map_nil, List.flatMap_nil]
  | ended cache execution l outcome ran line here elsewhere queue =>
      have ended : l.outcome? execution = some outcome := by rw [Loop.outcome?, here]
      rw [after_turn_ended hook rfl ended queue]
      simp [queued, queue, Function.comp_def]

theorem Phase.drains {s : Scene} {line : List Callback} (phase : Phase s line) :
    (s.run hook (List.replicate (generationsOf s.queued) .turn)).loop.queue = [] := by
  generalize count : generationsOf s.queued = n
  induction n generalizing s line with
  | zero => exact List.map_eq_nil_iff.mp (eq_nil_of_generationsOf count)
  | succ n ih =>
      refine ih (phase.turn hook) ?_
      rw [phase.queued_turn, generationsOf_adds, count, Nat.add_sub_cancel]

/-! ## What a phase tells -/

/-- What holds of a context at any moment of its life, when the callbacks of a line were registered
so far. -/
structure Orderly (s : Scene) (line : List Callback) : Prop where
  /-- There is no execution exactly as long as the context is only created. -/
  unstarted : s.context.execution = none ↔ s.context.stage = .created
  /-- A context that was started holds no callbacks back. -/
  handedOn : s.context.stage = .started → s.context.pending = []
  /-- The hook was run once if the context was started, and else not at all. -/
  hooked : s.context.hookRuns = if s.context.isStarted then 1 else 0
  /-- Nothing but a start starts a context. -/
  waits : s.context.stage = .created → ∀ a, (∀ execution, a ≠ .start execution) →
    (s.after hook a).context.stage = .created
  /-- The first start starts it, however the hook ends. -/
  starts : s.context.stage = .created → ∀ execution,
    ((s.act hook (.start execution)).1 = hook.outcome.map fun _ => .null) ∧
      (s.after hook (.start execution)).context.stage = .started ∧
      (s.after hook (.start execution)).context.execution = some execution
  /-- Nothing changes a context that was started. -/
  stays : s.context.stage = .started → ∀ acts, (s.run hook acts).context = s.context
  /-- Another start fails and changes nothing at all. -/
  startsOnce : s.context.stage = .started → ∀ execution, ∃ f,
    s.act hook (.start execution) = (.error f, s) ∧ f.className = "ContextLifecycleError"
  /-- Callbacks run in the order of the line, each once, with the outcome of the execution of the
  context, and none before that has ended. -/
  inOrder : ∃ ran later, line = ran ++ later ∧
    (s.called = [] ∧ ran = [] ∨ ∃ execution outcome, s.context.execution = some execution ∧
      s.loop.outcome? execution = some outcome ∧
      s.called = ran.map fun c => (c.name, outcome))
  /-- When the execution has ended and the queue is empty, all have run. -/
  allRan : ∀ execution outcome, s.context.execution = some execution →
    s.loop.outcome? execution = some outcome → s.loop.queue = [] →
    s.called = line.map fun c => (c.name, outcome)
  /-- The queue gets empty if only the loop turns often enough. -/
  drains : ∃ n, (s.run hook (List.replicate n .turn)).loop.queue = []

theorem act_started {s : Scene} {line : List Callback} (phase : Phase s line)
    (started : s.context.stage = .started) (a : Act) :
    (s.after hook a).context = s.context := by
  cases a with
  | add callback =>
      cases phase with
      | created => cases started
      | running => rfl
      | ended => rfl
  | start execution => simp only [after, act, Context.start, started]
  | complete execution outcome => rw [after_complete]
  | cancel execution => rw [after_cancel, after_complete]
  | turn =>
      cases phase with
      | created => cases started
      | running cache execution l line here elsewhere idle => rw [after_turn_idle hook idle]
      | ended cache execution l outcome ran line here elsewhere queue =>
          have ended : l.outcome? execution = some outcome := by rw [Loop.outcome?, here]
          rw [after_turn_ended hook rfl ended queue]

theorem run_started {s : Scene} {line : List Callback} (phase : Phase s line)
    (started : s.context.stage = .started) (acts : List Act) :
    (s.run hook acts).context = s.context := by
  induction acts generalizing s line with
  | nil => rfl
  | cons a rest ih =>
      have same := act_started hook phase started a
      exact (ih (act_phase hook phase a) (by rw [same, started])).trans same

theorem Phase.waits {s : Scene} {line : List Callback} (phase : Phase s line)
    (created : s.context.stage = .created) {a : Act} (other : ∀ execution, a ≠ .start execution) :
    (s.after hook a).context.stage = .created := by
  cases phase with
  | running => cases created
  | ended => cases created
  | created cache l line unawaited idle =>
      cases a with
      | add callback => rfl
      | start execution => exact absurd rfl (other execution)
      | complete execution outcome => rw [after_complete]
      | cancel execution => rw [after_cancel, after_complete]
      | turn => rw [after_turn_idle hook idle]

theorem Phase.orderly {s : Scene} {line : List Callback} (phase : Phase s line) :
    Orderly hook s line where
  unstarted := by
    cases phase with
    | created => exact ⟨fun _ => rfl, fun _ => rfl⟩
    | running | ended => exact ⟨nofun, nofun⟩
  handedOn := by
    cases phase with
    | created => exact nofun
    | running | ended => exact fun _ => rfl
  hooked := by
    cases phase <;> rfl
  waits created _ other := phase.waits hook created other
  starts created execution := by
    simp only [after, act, Context.start_created created, and_self]
  stays started acts := run_started hook phase started acts
  startsOnce started execution := by
    refine ⟨s.context.alreadyStarted, ?_, rfl⟩
    simp only [act, Context.start, started]
    rfl
  inOrder := by
    cases phase with
    | created cache l line => exact ⟨[], line, rfl, .inl ⟨rfl, rfl⟩⟩
    | running cache execution l line => exact ⟨[], line, rfl, .inl ⟨rfl, rfl⟩⟩
    | ended cache execution l outcome ran line here =>
        refine ⟨ran, line, rfl, .inr ⟨execution, outcome, rfl, ?_, rfl⟩⟩
        show (l.future execution).outcome = _
        rw [here]
  allRan execution outcome mine ended empty := by
    cases phase with
    | created => cases mine
    | running cache mine l line here =>
        cases mine
        have pending : l.outcome? execution = none := by rw [Loop.outcome?, here]
        rw [pending] at ended
        cases ended
    | ended cache mine l outcome ran line here elsewhere queue =>
        cases mine
        rw [Loop.outcome?, here] at ended
        cases ended
        have none : line = [] := List.map_eq_nil_iff.mp (queue.symm.trans empty)
        rw [none, List.append_nil]
  drains := ⟨_, phase.drains hook⟩

/-- Whatever is done with a context, and in whatever order, it is started at most once, and what is
registered with it runs once, in order, and not before the execution has ended. -/
theorem life_orderly (cache : Option CacheName) (acts : List Act) :
    Orderly hook ((new cache).run hook acts) ((new cache).registered hook acts) :=
  (run_phase hook (new_phase cache) acts).orderly hook

/-- A callback that is added twice runs twice, one that fails hinders nobody, and what a callback
adds runs last, here behind the callback of a hook that failed. -/
example :
    let early : Callback := .make "early" [.make "nested" [] false] true
    let hook : Context.Hook Callback :=
      ⟨[.make "hooked" [] false], .error (.plain "RuntimeError" "no")⟩
    let acts : List Act :=
      [.add early, .add early, .start "a", .start "b", .cancel "a", .turn, .turn]
    ((new none).run hook acts).called.map (·.1) =
      [("early" : Text), "early", "hooked", "nested", "nested"] := by
  decide +kernel

end Scene

end QueryGateway.Execution
