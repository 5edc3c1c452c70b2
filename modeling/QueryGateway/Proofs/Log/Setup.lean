import Mathlib.Data.List.Basic
import QueryGateway.Log.Setup

/-!
# Configuring the log, over and over

The root logger is configured any number of times, with any names for a level, and records come to it
in between. `StandsFor` says which names stand for which level, by a table of its own: the two names
that are in use for something else stand for none. A configuration succeeds exactly with the names that
stand for a level, and then a single handler is left, which writes lines from that level on; any other
leaves the root logger as it was (`Root.step_configure`).

So the last configuration that succeeded decides what is written. Behind it every record from its level
on is written, once and in its place, and no other record is (`Root.output_configured`). In front of
the first one nothing is written at all: the handlers are somebody else's (`Root.output_foreign`).

A record of level zero is never written, not even where every level is asked for: zero is the level of
what has none. It is the only exception, `levelZeroEntry_unwritten`.
-/

namespace QueryGateway.Log

variable {setting : Text} {l l' : Level}

/-! ## Names of levels -/

/-- The names that stand for a level. -/
def levelNames : List (Text × Level) :=
  [("CRITICAL", critical), ("FATAL", critical), ("ERROR", error), ("WARNING", warning),
    ("WARN", warning), ("INFO", info), ("DEBUG", debug), ("NOTSET", 0)]

/-- The names that stand for something else. -/
def otherNames : List Text := ["BASIC_FORMAT", "_STYLES"]

/-- A setting stands for the level of its name in capitals, and a name that is not known for `info`. -/
inductive StandsFor (setting : Text) : Level → Prop
  | named {l : Level} : (setting.upper, l) ∈ levelNames → StandsFor setting l
  | unknown : (∀ l, (setting.upper, l) ∉ levelNames) → setting.upper ∉ otherNames →
      StandsFor setting info

theorem mem_levelNames {name : Text} :
    (name, l) ∈ levelNames ↔
      (name = "CRITICAL" ∧ l = critical) ∨ (name = "FATAL" ∧ l = critical) ∨
      (name = "ERROR" ∧ l = error) ∨ (name = "WARNING" ∧ l = warning) ∨
      (name = "WARN" ∧ l = warning) ∨ (name = "INFO" ∧ l = info) ∨
      (name = "DEBUG" ∧ l = debug) ∨ (name = "NOTSET" ∧ l = 0) := by
  simp only [levelNames, List.mem_cons, List.not_mem_nil, or_false, Prod.mk.injEq]

theorem named?_of_mem {name : Text} (h : (name, l) ∈ levelNames) :
    named? name = some (.level l) := by
  rcases mem_levelNames.mp h with ⟨rfl, rfl⟩ | ⟨rfl, rfl⟩ | ⟨rfl, rfl⟩ | ⟨rfl, rfl⟩ | ⟨rfl, rfl⟩ |
    ⟨rfl, rfl⟩ | ⟨rfl, rfl⟩ | ⟨rfl, rfl⟩ <;> rfl

theorem named?_of_not_mem {name : Text} (unnamed : ∀ l, (name, l) ∉ levelNames)
    (free : name ∉ otherNames) : named? name = none := by
  have other (s : Text) (l : Level) (known : (s, l) ∈ levelNames) : name ≠ s := by
    rintro rfl
    exact unnamed l known
  have used (s : Text) (known : s ∈ otherNames) : name ≠ s := by
    rintro rfl
    exact free known
  unfold named?
  simp [other "CRITICAL" critical (by decide), other "FATAL" critical (by decide),
    other "ERROR" error (by decide), other "WARNING" warning (by decide),
    other "WARN" warning (by decide), other "INFO" info (by decide),
    other "DEBUG" debug (by decide), other "NOTSET" 0 (by decide), used "BASIC_FORMAT" (by decide),
    used "_STYLES" (by decide)]

theorem StandsFor.resolve_eq (h : StandsFor setting l) : resolve setting = .ok l := by
  rw [resolve]
  cases h with
  | named known => rw [named?_of_mem known]
  | unknown unnamed free => rw [named?_of_not_mem unnamed free]

theorem StandsFor.unique (h : StandsFor setting l) (h' : StandsFor setting l') : l = l' :=
  Except.ok.inj (h.resolve_eq.symm.trans h'.resolve_eq)

/-- A name that is in use for something else stands for no level, and asking for it fails. -/
theorem resolve_of_mem (h : setting.upper ∈ otherNames) : ∃ f, resolve setting = .error f := by
  rw [resolve]
  simp only [otherNames, List.mem_cons, List.not_mem_nil, or_false] at h
  rcases h with format | formats
  · rw [format]
    exact ⟨_, rfl⟩
  · rw [formats]
    exact ⟨_, rfl⟩

/-- Every name stands for a level but those that are in use for something else. -/
theorem exists_standsFor : (∃ l, StandsFor setting l) ↔ setting.upper ∉ otherNames := by
  constructor
  · rintro ⟨l, stands⟩ other
    obtain ⟨f, failed⟩ := resolve_of_mem other
    cases stands.resolve_eq.symm.trans failed
  · intro free
    by_cases known : ∃ l, (setting.upper, l) ∈ levelNames
    · obtain ⟨l, known⟩ := known
      exact ⟨l, .named known⟩
    · exact ⟨info, .unknown (not_exists.mp known) free⟩

theorem not_standsFor : (∀ l, ¬ StandsFor setting l) ↔ setting.upper ∈ otherNames := by
  rw [← not_exists, exists_standsFor, Decidable.not_not]

/-! ## Steps -/

/-- What can happen to a root logger. -/
inductive Step where
  | configure (time : Instant) (setting : Text)
  /-- A record comes from a logger that has neither a level nor a handler of its own. -/
  | record (e : Entry)

/-- The entry that a step brings, if it brings one: a configuration that succeeds tells so. -/
def Step.entry? : Step → Option Entry
  | .configure time setting => (resolve setting).toOption.map fun _ => configuredEntry time setting
  | .record e => some e

/-- The line of an entry where lines are written from a level on. -/
def Entry.lineFrom (l : Level) (e : Entry) : Option Text :=
  if 0 < e.level ∧ l ≤ e.level then e.write.toOption else none

/-- No configuration among the steps succeeds. -/
def Unconfigured (steps : List Step) : Prop :=
  ∀ time setting, .configure time setting ∈ steps → ∀ l, ¬ StandsFor setting l

namespace Root

variable {root : Root} {steps : List Step}

/-- The root logger after a step, and the lines that the step writes unless it fails. -/
def step (root : Root) : Step → Root × Except Failure (List Text)
  | .configure time setting => Log.configure time setting root
  | .record e => (root, .ok (root.log e))

/-- The root logger after several steps. -/
def after (root : Root) (steps : List Step) : Root := steps.foldl (fun root s => (root.step s).1) root

/-- All lines that several steps write, in order. -/
def output (root : Root) : List Step → List Text
  | [] => []
  | s :: rest => (root.step s).2.toOption.getD [] ++ output (root.step s).1 rest

/-- A root logger that was configured for a level. -/
def configured (l : Level) : Root := ⟨l, [.lines l]⟩

/-- A configuration leaves one handler, at the level that was asked for, or it fails and leaves the root
logger as it was. -/
theorem step_configure (root : Root) (time : Instant) (setting : Text) :
    (∃ l, StandsFor setting l ∧ root.step (.configure time setting) =
        (configured l, .ok ((configured l).log (configuredEntry time setting)))) ∨
      (∀ l, ¬ StandsFor setting l) ∧ ∃ f, root.step (.configure time setting) = (root, .error f) := by
  by_cases other : setting.upper ∈ otherNames
  · right
    obtain ⟨f, failed⟩ := resolve_of_mem other
    refine ⟨not_standsFor.mpr other, f, ?_⟩
    rw [step, Log.configure, failed]
  · left
    obtain ⟨l, stands⟩ := exists_standsFor.mpr other
    refine ⟨l, stands, ?_⟩
    rw [step, Log.configure, stands.resolve_eq]
    rfl

/-- A step that is no configuration that succeeds leaves the root logger alone, and writes what the root
logger writes for the entry of the step, if it brings one. -/
theorem step_unconfigured {s : Step} (h : Unconfigured [s]) (root : Root) :
    (root.step s).1 = root ∧
      (root.step s).2.toOption.getD [] = s.entry?.toList.flatMap root.log := by
  cases s with
  | record e => exact ⟨rfl, (List.append_nil _).symm⟩
  | configure time setting =>
      have unnamed : ∀ l, ¬ StandsFor setting l := h time setting List.mem_cons_self
      obtain ⟨l, stands, -⟩ | ⟨-, f, failed⟩ := root.step_configure time setting
      · exact absurd stands (unnamed l)
      · obtain ⟨g, unresolved⟩ := resolve_of_mem (not_standsFor.mp unnamed)
        rw [failed, Step.entry?, unresolved]
        exact ⟨rfl, rfl⟩

/-- The induction is on the steps: the root logger that the first one meets is the one that all meet. -/
theorem run_unconfigured (h : Unconfigured steps) (root : Root) :
    root.after steps = root ∧ root.output steps = (steps.filterMap Step.entry?).flatMap root.log := by
  induction steps with
  | nil => exact ⟨rfl, rfl⟩
  | cons s rest ih =>
      have first : Unconfigured [s] := by
        intro time setting mem
        exact h time setting (List.mem_cons.mpr (.inl (List.mem_singleton.mp mem)))
      obtain ⟨same, lines⟩ := step_unconfigured first root
      obtain ⟨kept, more⟩ := ih fun time setting mem => h time setting (List.mem_cons_of_mem s mem)
      constructor
      · rw [after, List.foldl_cons, same]
        exact kept
      · rw [output, same, lines, more, List.filterMap_cons]
        cases s.entry? with
        | none => rfl
        | some e => simp

theorem output_append (root : Root) (first later : List Step) :
    root.output (first ++ later) = root.output first ++ (root.after first).output later := by
  induction first generalizing root with
  | nil => rfl
  | cons s rest ih =>
      rw [List.cons_append, output, output, ih, List.append_assoc]
      rfl

/-! ## What is written -/

theorem log_configured (l : Level) (e : Entry) :
    (configured l).log e = (e.lineFrom l).toList := by
  by_cases reached : 0 < e.level ∧ l ≤ e.level
  · obtain ⟨above, from_⟩ := reached
    have admitted : (configured l).admits e.level = true := by
      rw [admits, configured, decide_eq_true above, decide_eq_true from_]
      rfl
    have emitted : (Handler.lines l).emit e = e.write.toOption.toList := by
      rw [Handler.emit, if_pos from_]
      cases e.write <;> rfl
    rw [log, if_pos admitted, configured, List.flatMap_singleton, emitted, Entry.lineFrom,
      if_pos ⟨above, from_⟩]
  · have held : ¬ (configured l).admits e.level = true := by
      rw [admits, configured, Bool.and_eq_true, decide_eq_true_eq, decide_eq_true_eq]
      exact reached
    rw [log, if_neg held, Entry.lineFrom, if_neg reached]
    rfl

theorem flatMap_log_configured (l : Level) (es : List Entry) :
    es.flatMap (configured l).log = es.filterMap (Entry.lineFrom l) := by
  rw [List.filterMap_eq_flatMap_toList]
  exact List.flatMap_congr fun e _ => log_configured l e

theorem log_foreign (level : Level) (n : Nat) (e : Entry) :
    log ⟨level, List.replicate n .foreign⟩ e = [] := by
  rw [log]
  split
  · rw [List.flatMap_eq_nil_iff]
    intro h mem
    rw [List.eq_of_mem_replicate mem]
    rfl
  · rfl

/-- While nothing was configured, nothing is written. -/
theorem output_foreign (level : Level) (n : Nat) (h : Unconfigured steps) :
    output ⟨level, List.replicate n .foreign⟩ steps = [] := by
  rw [(run_unconfigured h _).2, List.flatMap_eq_nil_iff]
  exact fun e _ => log_foreign level n e

/-- Behind a configuration that succeeded, and up to the next one, the records from its level on are
written. The first of them is that of the configuration. -/
theorem output_configured (root : Root) (time : Instant) (stands : StandsFor setting l)
    (h : Unconfigured steps) :
    root.after (.configure time setting :: steps) = configured l ∧
      root.output (.configure time setting :: steps) =
        (configuredEntry time setting :: steps.filterMap Step.entry?).filterMap (Entry.lineFrom l) := by
  have first : root.step (.configure time setting) =
      (configured l, .ok ((configured l).log (configuredEntry time setting))) := by
    obtain ⟨l', stands', made⟩ | ⟨none, -⟩ := root.step_configure time setting
    · obtain rfl := stands.unique stands'
      exact made
    · exact absurd stands (none l)
  obtain ⟨kept, lines⟩ := run_unconfigured h (configured l)
  constructor
  · rw [after, List.foldl_cons, first]
    exact kept
  · rw [output, first, lines, ← flatMap_log_configured, List.flatMap_cons]
    rfl

end Root

/-! ## Whole runs -/

/-- Whatever happens to a root logger with the handlers of others: nothing is written until it is
configured with success. A configuration succeeds, and then there is one handler and one level, or it
fails and changes nothing. After a success and up to the next one, each record that is above zero and
from the level on and that has a line is written once, in its place, and nothing else is. -/
theorem configured_logging (level : Level) (foreign : Nat) (steps : List Step) :
    let start : Root := ⟨level, List.replicate foreign .foreign⟩
    let root := start.after steps
    (Unconfigured steps → root = start ∧ start.output steps = []) ∧
      ∀ time setting,
        (∃ l, StandsFor setting l ∧
          (root.step (.configure time setting)).1 = ⟨l, [.lines l]⟩ ∧
          (root.step (.configure time setting)).2.isOk = true ∧
          ∀ later, Unconfigured later →
            root.after (.configure time setting :: later) = ⟨l, [.lines l]⟩ ∧
              start.output (steps ++ .configure time setting :: later) =
                start.output steps ++ (configuredEntry time setting ::
                  later.filterMap Step.entry?).filterMap (Entry.lineFrom l)) ∨
        (∀ l, ¬ StandsFor setting l) ∧
          ∃ f, root.step (.configure time setting) = (root, .error f) := by
  intro start root
  constructor
  · intro unconfigured
    exact ⟨(Root.run_unconfigured unconfigured start).1, Root.output_foreign level foreign unconfigured⟩
  · intro time setting
    obtain ⟨l, stands, made⟩ | failed := root.step_configure time setting
    · left
      refine ⟨l, stands, congrArg Prod.fst made, by rw [made]; rfl, fun later unconfigured => ?_⟩
      obtain ⟨kept, lines⟩ := root.output_configured time stands unconfigured
      refine ⟨kept, ?_⟩
      rw [Root.output_append]
      exact congrArg _ lines
    · exact .inr failed

/-! ## Records of level zero -/

/-- A record of no level. -/
def levelZeroEntry : Entry :=
  { configuredEntry ⟨2025, 1, 2, 3, 4, 5, 678900⟩ "NOTSET" with level := 0 }

/-- A record of level zero is not written where every level was asked for. -/
theorem levelZeroEntry_unwritten :
    let setup : Step := .configure levelZeroEntry.time "NOTSET"
    StandsFor "NOTSET" 0 ∧ 0 ≤ levelZeroEntry.level ∧ levelZeroEntry.write.isOk = true ∧
      ∀ root : Root, (root.step setup).2.isOk = true ∧
        ((root.step setup).1.step (.record levelZeroEntry)).2.toOption = some [] := by
  intro setup
  refine ⟨.named (by decide), by decide, by decide +kernel, fun root => ⟨rfl, rfl⟩⟩

end QueryGateway.Log
