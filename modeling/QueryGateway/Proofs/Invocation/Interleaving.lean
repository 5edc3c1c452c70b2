import Mathlib.Data.List.Basic
import Mathlib.Data.List.Induction
import Mathlib.Logic.Function.Basic
import QueryGateway.Proofs.Invocation.Turns
import QueryGateway.Server.Application

/-!
# Invocations that overlap

Any number of parties are at one adapter, each with a call of its own, and share its cache. At every
move somebody takes a turn, or a collaborator of somebody who is in flight does something to the
caches in between, which a validator or an engine may do that waits for others itself. Who moves is
anybody's choice, and a history is any list of moves.

The cache is not private to an invocation, and the first who is through takes everything out, also
what the others put there. So nothing is said about what a party finds; what is said is whose the
entries are. Once somebody was through, each entry was put there by a party that is still in flight,
after the last one that was through (`Deposited`), and nothing is left when nobody is in flight
(`overlapping_leave_nothing`).

The induction is on the history, from its end: a move keeps an entry, or makes it, or empties the
cache (`Moved`).

What is NOT here: what the loop has still to do when an invocation has returned, so its callbacks
never run, and a party that is told to stop from outside.
-/

namespace QueryGateway.Invocation

open Execution (CacheName)

/-- Parties at an adapter: where each of them stands, and the caches. -/
structure Crowd (ι : Type) where
  station : ι → Station
  caches : Caches

/-- A move: a party takes a turn, or one of its collaborators does something to the caches. -/
inductive Move (ι : Type) where
  | turn (i : ι)
  | touch (i : ι) (effect : CacheEffect)

/-- Who makes a move. -/
def Move.party {ι : Type} : Move ι → ι
  | .turn i | .touch i _ => i

namespace Crowd

variable {ι : Type} [DecidableEq ι]

/-- Nobody has begun. -/
def initial (caches : Caches) : Crowd ι := ⟨fun _ => .ahead, caches⟩

/-- The crowd with a party at another station, and other caches. -/
def put (s : Crowd ι) (i : ι) (t : Station × Caches) : Crowd ι :=
  ⟨Function.update s.station i t.1, t.2⟩

theorem put_station_self (s : Crowd ι) (i : ι) (t : Station × Caches) :
    (s.put i t).station i = t.1 :=
  Function.update_self ..

theorem put_station_of_ne (s : Crowd ι) {i j : ι} (h : j ≠ i) (t : Station × Caches) :
    (s.put i t).station j = s.station j :=
  Function.update_of_ne h ..

theorem put_same (s : Crowd ι) (i : ι) : s.put i (s.station i, s.caches) = s := by
  rw [put, Function.update_eq_self]

theorem put_put (s : Crowd ι) (i : ι) (t t' : Station × Caches) :
    (s.put i t).put i t' = s.put i t' := by
  rw [put, put, put, Function.update_idem]

/-- The crowd after a move. The collaborators of a party that is not in flight do nothing. -/
def move (calls : ι → Call) (s : Crowd ι) : Move ι → Crowd ι
  | .turn i => s.put i ((calls i).turn (s.station i) s.caches)
  | .touch i effect => if (s.station i).inFlight then { s with caches := effect s.caches } else s

/-- The crowd after a history. -/
def after (calls : ι → Call) (caches : Caches) (history : List (Move ι)) : Crowd ι :=
  history.foldl (move calls) (initial caches)

/-- Somebody is through. -/
def someoneGone (s : Crowd ι) : Prop := ∃ i, (s.station i).isGone = true

/-- Nobody is in flight. -/
def idle (s : Crowd ι) : Prop := ∀ i, (s.station i).inFlight = false

end Crowd

/-! ## Where an entry is from -/

section
variable {ι : Type} [DecidableEq ι] (calls : ι → Call) (start : Caches) (name : CacheName)

/-- An entry was put into the cache at some point of a history and is there ever since. Whoever is
through at the end was through before, and whoever put it there is in flight. -/
inductive Deposited (history : List (Move ι)) (entry : Key × Value) : Prop
  | intro (before : List (Move ι)) (m : Move ι) (later : List (Move ι)) :
    history = before ++ m :: later →
    entry ∉ ((Crowd.after calls start before).caches name).entries →
    (∀ since : List (Move ι), since <+: later →
      entry ∈ ((Crowd.after calls start (before ++ m :: since)).caches name).entries) →
    ((Crowd.after calls start history).station m.party).inFlight = true →
    (∀ i, ((Crowd.after calls start history).station i).isGone = true →
      ((Crowd.after calls start before).station i).isGone = true) →
    Deposited history entry

end

variable {ι : Type} [DecidableEq ι] {calls : ι → Call} {start : Caches} {name : CacheName}

namespace Crowd

theorem after_snoc (history : List (Move ι)) (m : Move ι) :
    after calls start (history ++ [m]) = move calls (after calls start history) m :=
  List.foldl_concat ..

/-! ## What a move can do -/

/-- What a move can do: somebody is in flight behind it, and nobody is through who was not; or
somebody is through behind it, and the cache is empty; or nothing happens. -/
inductive Moved (name : CacheName) (i : ι) (s : Crowd ι) : Crowd ι → Prop
  | on {s' : Crowd ι} : (s'.station i).inFlight = true →
      (∀ j, j ≠ i → s'.station j = s.station j) →
      (∀ j, (s'.station j).isGone = true → (s.station j).isGone = true) → Moved name i s s'
  | out {s' : Crowd ι} : s'.caches name = Cache.empty → Moved name i s s'
  | still : Moved name i s s

theorem move_moved (uses : ∀ i, (calls i).Uses name) (s : Crowd ι) (m : Move ι) :
    Moved name m.party s (move calls s m) := by
  cases m with
  | turn i =>
      have turned := Call.turn_turned (uses i) (s.station i) s.caches
      rw [move]
      generalize (calls i).turn (s.station i) s.caches = t at turned
      cases turned with
      | on here inside within =>
          refine .on ?_ (fun j other => s.put_station_of_ne other _) fun j gone => ?_
          · rwa [Move.party, put_station_self]
          · by_cases same : j = i
            · subst same
              rw [put_station_self] at gone
              cases gone.symm.trans within
            · rwa [s.put_station_of_ne same] at gone
      | out _ _ empty => exact .out empty
      | still gone =>
          rw [put_same]
          exact .still
  | touch i effect =>
      rw [move]
      split
      next inside => exact .on inside (fun _ _ => rfl) fun _ gone => gone
      next => exact .still

end Crowd

/-! ## Entries over a history -/

open Crowd

/-- An entry that a move leaves alone is from where it was before, if the move lets nobody who was
not through be through, nor take whoever put it there out of flight. -/
theorem Deposited.snoc {history : List (Move ι)} {entry : Key × Value} {m : Move ι}
    (h : Deposited calls start name history entry)
    (kept : entry ∈ ((after calls start (history ++ [m])).caches name).entries)
    (flying : ∀ i, ((after calls start history).station i).inFlight = true →
      ((after calls start (history ++ [m])).station i).inFlight = true)
    (gone : ∀ i, ((after calls start (history ++ [m])).station i).isGone = true →
      ((after calls start history).station i).isGone = true) :
    Deposited calls start name (history ++ [m]) entry := by
  obtain ⟨before, m₀, later, split, absent, present, inside, through⟩ := h
  refine .intro before m₀ (later ++ [m]) ?_ absent (fun since part => ?_) (flying _ inside)
    fun i h => through i (gone i h)
  · rw [split, List.append_assoc, List.cons_append]
  · obtain rfl | part := List.prefix_concat_iff.mp part
    · rwa [split, List.append_assoc, List.cons_append] at kept
    · exact present since part

/-- Once somebody was through, every entry is from somebody in flight. -/
theorem entries_deposited (uses : ∀ i, (calls i).Uses name) (history : List (Move ι))
    (through : (after calls start history).someoneGone) :
    ∀ entry ∈ ((after calls start history).caches name).entries,
      Deposited calls start name history entry := by
  induction history using List.reverseRecOn with
  | nil =>
      obtain ⟨i, gone⟩ := through
      cases gone
  | append_singleton history m ih =>
      intro entry mem
      have step := move_moved uses (after calls start history) m
      rw [← after_snoc] at step
      generalize result : after calls start (history ++ [m]) = s' at step
      cases step with
      | on inside others stay =>
          subst result
          by_cases old : entry ∈ ((after calls start history).caches name).entries
          · obtain ⟨i, gone⟩ := through
            refine (ih ⟨i, stay i gone⟩ entry old).snoc mem (fun j flying => ?_) stay
            by_cases same : j = m.party
            · rwa [same]
            · rwa [others j same]
          · refine .intro history m [] rfl old (fun since none => ?_) inside stay
            rwa [List.prefix_nil.mp none]
      | out empty =>
          rw [result, empty] at mem
          cases mem
      | still =>
          rw [result] at through mem
          refine (ih through entry mem).snoc ?_ ?_ ?_ <;> rw [result]
          · exact mem
          · exact fun _ h => h
          · exact fun _ h => h

/-- Somebody was through, and nobody is in flight: the cache is empty. -/
theorem idle_empty (uses : ∀ i, (calls i).Uses name) {history : List (Move ι)}
    (through : (after calls start history).someoneGone)
    (idle : (after calls start history).idle) :
    (after calls start history).caches name = Cache.empty := by
  have none : ((after calls start history).caches name).entries = [] := by
    refine List.eq_nil_iff_forall_not_mem.mpr fun entry mem => ?_
    obtain ⟨_, m, _, _, _, _, inside, _⟩ := entries_deposited uses history through entry mem
    exact nomatch (idle m.party).symm.trans inside
  exact congrArg Cache.mk none

open Server in
/-- Invocations of one adapter that overlap in any way, with collaborators that use its cache in any
way. Once somebody was through, every entry was put there after the last one who was through, by
somebody who is still in flight. When nobody is, the cache is empty, and so the server of a
deployment with that cache tells of no entries. -/
theorem overlapping_leave_nothing (uses : ∀ i, (calls i).Uses name) (history : List (Move ι))
    (through : (after calls start history).someoneGone) :
    (∀ entry ∈ ((after calls start history).caches name).entries,
        Deposited calls start name history entry) ∧
      ((after calls start history).idle →
        (after calls start history).caches name = Cache.empty ∧
          ∀ a : Application, a.deployment.cache = name → ∀ uptime fresh headers body,
            a.serve uptime fresh ⟨"GET", "/status", headers, body⟩
                (after calls start history).caches =
              .json 200 []
                [("status", .text "ok"), ("version", .text a.version),
                  ("uptime_seconds", .int (uptime / 1000 : Nat)),
                  ("invocation_cache_entries", .int 0)]
                (after calls start history).caches) := by
  refine ⟨entries_deposited uses history through, fun idle => ?_⟩
  have empty := idle_empty uses through idle
  refine ⟨empty, fun a shares uptime fresh headers body => ?_⟩
  show Exchange.json 200 [] (a.statusMembers (uptime / 1000) (after calls start history).caches)
    (after calls start history).caches = _
  rw [Application.statusMembers, shares, empty]
  rfl

open Rehearsal in
/-- Two calls of a rehearsal. -/
def twoCalls (second : Bool) : Call :=
  ⟨cachingDeployment none, .event helloEvent, .null, if second then "second" else "first"⟩

/-- The first is through while the second waits for its engine, which then runs. -/
def overtakingMoves : List (Move Bool) :=
  [.turn false, .turn false, .turn true, .turn false, .turn true, .turn true, .turn false,
    .turn false, .turn true]

/-- The entry that is there then is from the second, who takes it out in the end. -/
theorem overlapping_leave_nothing_overtaken :
    ((after twoCalls Caches.empty overtakingMoves).caches (.own 0)).nonempty = true ∧
      (∀ entry ∈ ((after twoCalls Caches.empty overtakingMoves).caches (.own 0)).entries,
        Deposited twoCalls Caches.empty (.own 0) overtakingMoves entry) ∧
      (after twoCalls Caches.empty (overtakingMoves ++ [.turn true])).caches (.own 0) =
        Cache.empty := by
  have during := @overlapping_leave_nothing Bool _ twoCalls Caches.empty (.own 0) (fun _ => rfl)
    overtakingMoves ⟨false, by decide +kernel⟩
  have behind := @overlapping_leave_nothing Bool _ twoCalls Caches.empty (.own 0) (fun _ => rfl)
    (overtakingMoves ++ [.turn true]) ⟨false, by decide +kernel⟩
  have idle : (after twoCalls Caches.empty (overtakingMoves ++ [.turn true])).idle :=
    Bool.forall_bool.mpr ⟨by decide +kernel, by decide +kernel⟩
  exact ⟨by decide +kernel, during.1, (behind.2 idle).1⟩

end QueryGateway.Invocation
