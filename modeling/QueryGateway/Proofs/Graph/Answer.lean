import QueryGateway.Graph.Engine
import QueryGateway.Proofs.Except

/-!
# What a query comes to

A query is read, checked and run, and each of these has an equation here. A run carries the state of
the resolvers and the faults of fields that are null. Each part of it is a function on these, and
nothing after this module opens a `do` block of the engine.

Where all goes well they put themselves together: a field that is an object comes to the members that
are selected from what its resolver gives (`objectMembers_from`), a run to those of the root
(`run_ok`), and a query that is valid to what its run comes to (`answer_ok`).

What is NOT here: lists, enumerations, and scalars that do not fit their type.
-/

namespace QueryGateway.Graph

open Invocation (Query)

variable {σ α β : Type}

/-- What a run comes to from a state and faults. -/
abbrev Running.from (x : Running σ α) (s : σ × List Fault) : Except Fault α × σ × List Fault :=
  x.run.run s

namespace Running

theorem bind_from (x : Running σ α) (f : α → Running σ β) (s : σ × List Fault) :
    (x >>= f).from s = match x.from s with
      | (.ok a, s) => (f a).from s
      | (.error e, s) => (.error e, s) := by
  show (ExceptT.bindCont f (x.from s).1).run (x.from s).2 = _
  rcases x.from s with ⟨_ | _, _⟩ <;> rfl

theorem bind_from_ok {x : Running σ α} {f : α → Running σ β} {s t : σ × List Fault} {a : α}
    (h : x.from s = (.ok a, t)) : (x >>= f).from s = (f a).from t := by
  rw [bind_from, h]

theorem get_from (s : σ × List Fault) :
    (get : Running σ (σ × List Fault)).from s = (.ok s, s) := rfl

theorem map_from (f : α → β) (x : Running σ α) (s : σ × List Fault) :
    (f <$> x).from s = ((x.from s).1.map f, (x.from s).2) := by
  rw [Running.from, ExceptT.run_map]
  rfl

theorem ofExcept_from (o : Except Fault α) (s : σ × List Fault) :
    (Running.ofExcept o).from s = (o, s) := by
  cases o <;> rfl

end Running

open Running

/-! ## Values of fields -/

/-- A resolver is asked with the state, and its failure becomes a fault at the spot. -/
theorem resolve_from (d : FieldDef σ) (spot : Spot) (source : Value) (args : Members) (state : σ)
    (faults : List Fault) :
    (resolve d spot source args).from (state, faults) =
      ((d.resolve source args state).1.mapError fun f => spot.fault f.message,
        (d.resolve source args state).2, faults) := by
  rw [resolve, bind_from_ok (get_from _)]
  rcases asked : d.resolve source args state with ⟨_ | _, _⟩ <;> simp only [asked] <;> rfl

theorem resolve_from_ok {d : FieldDef σ} {source v : Value} {args : Members} {state state' : σ}
    (h : d.resolve source args state = (.ok v, state')) (spot : Spot) (faults : List Fault) :
    (resolve d spot source args).from (state, faults) = (.ok v, state', faults) := by
  rw [resolve_from, h]
  rfl

/-- A fault is kept, with null in the place of the value. -/
theorem orNull_from (run : Running σ Value) (s : σ × List Fault) :
    (orNull run).from s = match run.from s with
      | (.ok v, t) => (.ok v, t)
      | (.error f, t) => (.ok .null, t.1, t.2 ++ [f]) := by
  unfold orNull Running.from
  rw [ExceptT.run_mk, StateT.run_bind]
  rcases run.run.run s with ⟨_ | _, _⟩ <;> rfl

/-- A value that comes about is left alone, whether its type rules out null or not. -/
theorem settle_from_ok (type : TypeUse) {run : Running σ Value} {s t : σ × List Fault} {v : Value}
    (h : run.from s = (.ok v, t)) : (settle type run).from s = (.ok v, t) := by
  unfold settle
  split
  · exact h
  · rw [orNull_from, h]

/-- A field that takes no arguments is given none. -/
theorem fieldArguments_none (e : Setting σ) (spot : Spot) (f : Field) {d : FieldDef σ}
    (none : d.arguments = []) : fieldArguments e spot f d = pure [] := by
  rw [fieldArguments, none]
  rfl

theorem complete_object {s : Schema σ} {object : ObjectDef σ → Spot → Value → Running σ Value}
    {name : Text} {o : ObjectDef σ} (h : s.type? name = some (.object o)) (spot : Spot)
    (members : Members) :
    complete s object (.named name) spot (Value.object members) =
      object o spot (Value.object members) := by
  rw [complete, h]
  exact nofun

theorem eachGroup_singleton {run : Group → Running σ (Option Value)} {g : Group}
    {s t : σ × List Fault} {v : Value} (h : (run g).from s = (.ok (some v), t)) :
    (eachGroup run [g]).from s = (.ok [(g.key, v)], t) := by
  rw [eachGroup, bind_from_ok h]
  rfl

/-! ## Fields that are objects, and the whole run -/

/-- A field of an object type that takes no arguments is the object of the members that are selected
from what its resolver gives. -/
theorem objectMembers_from {e : Setting σ} {fuel : Nat} {o inner : ObjectDef σ} {path : List Value}
    {source : Value} {g : Group} {d : FieldDef σ} {name : Text} {groups : List Group}
    {members below : Members} {state state' : σ} {faults : List Fault} {t : σ × List Fault}
    (field : e.schema.field? o g.first.1.name.text = some d) (none : d.arguments = [])
    (type : d.type = .named name) (known : e.schema.type? name = some (.object inner))
    (resolved : d.resolve source [] state = (.ok (Value.object members), state'))
    (selected : collect e inner.name (fuel + 1) (g.all.map (·.2)) = .ok groups)
    (rest : (objectMembers e fuel inner (path ++ [.text g.key]) (Value.object members) groups).from
      (state', faults) = (.ok below, t)) :
    (objectMembers e (fuel + 1) o path source [g]).from (state, faults) =
      (.ok [(g.key, Value.object below)], t) := by
  rw [objectMembers]
  refine eachGroup_singleton ?_
  simp only [field]
  rw [map_from, settle_from_ok (v := Value.object below) (t := t)]
  · rfl
  · rw [fieldArguments_none e _ _ none, pure_bind, bind_from_ok (resolve_from_ok resolved ..), type,
      complete_object known]
    simp only [selected]
    rw [map_from, rest]
    rfl

/-- A run gives the members of the root. -/
theorem run_ok {e : Setting σ} {o : Operation} {groups : List Group} {members : Members}
    {state state' : σ} {faults : List Fault}
    (selected : collect e e.schema.root.name (depth e.document) [o.selections] = .ok groups)
    (all : (objectMembers e (depth e.document) e.schema.root [] .null groups).from (state, []) =
      (.ok members, state', faults)) :
    run e o state = (Value.object members, faults, state') := by
  have members_from : Running.from (Running.ofExcept
        (collect e e.schema.root.name (depth e.document) [o.selections]) >>= fun groups =>
      objectMembers e (depth e.document) e.schema.root [] .null groups) (state, []) =
      (.ok members, state', faults) := by
    rw [selected, bind_from_ok (ofExcept_from ..), all]
  rw [run]
  simp only [members_from]

/-! ## Valid documents -/

open Validation in
/-- A document is valid if no rule finds anything on the way through it. -/
theorem faults_eq_nil {s : Schema σ} {d : Document} {way : List (Site σ)} (walk : sites s d = way)
    (found : ∀ site ∈ way, findings s d site = [])
    (apart : overlaps s d way = way.map fun _ => [])
    (inputs : ∀ site ∈ way, uniqueInputFields s d site = [])
    (narrow : ∀ site ∈ way, narrowQuestions s d site = []) : faults s d = [] := by
  have all : allFaults s d = [] := by
    simp only [allFaults, walk, apart, List.flatMap_eq_nil_iff]
    rintro ⟨site, conflicts⟩ mem
    obtain ⟨visited, searched⟩ := List.of_mem_zip mem
    obtain ⟨-, -, rfl⟩ := List.mem_map.mp searched
    simp only [found site visited, inputs site visited, narrow site visited, List.append_nil]
  unfold faults
  rw [all]
  rfl

/-- A query that is read as a valid document, the variables of which have values, comes to what its
operation gives. -/
theorem answer_ok {s : Schema σ} {q : Query} {d : Document} {o : Operation} {bindings : Members}
    {data : Value} {state state' : σ} (read : Document.read q.text = .ok d)
    (valid : Validation.faults s.reflective d = [])
    (chosen : chosenOperation d q.operationName = .ok o)
    (bound : variableValues s.reflective q.bindings o = .ok bindings)
    (ran : run ⟨s.reflective, d, bindings⟩ o state = (data, [], state')) :
    answer s q state = (⟨data, none, .null⟩, state') := by
  have planned : plan s.reflective q = .ok (⟨s.reflective, d, bindings⟩, o) := by
    unfold plan
    simp only [read, Except.ok_bind, valid, chosen, bound]
  unfold answer
  rw [planned]
  simp only [ran]
  rfl

end QueryGateway.Graph
