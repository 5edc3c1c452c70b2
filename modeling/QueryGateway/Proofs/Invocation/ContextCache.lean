import QueryGateway.Invocation.Setup
import QueryGateway.Proofs.Invocation.Callbacks

/-!
# The cache of a context

An adapter and the contexts that are built for it each have a cache, and each take that of the
process if they are given none. Nothing makes the two the same. What an invocation takes out at its
end is the cache of the adapter, and no other: so the cache of a context is empty behind the
invocation if it is that of the adapter, on every way out, and else it holds whatever it held at the
outcome (`context_cache_left`).

A deployment on a cache of its own that forgets to hand it to its contexts therefore leaves what it
keeps there to the next invocation (`context_cache_survives`).

What is NOT here: callbacks that are left when an invocation has returned.
-/

namespace QueryGateway.Invocation

open Execution (CacheName Context)

variable {d : Deployment} {arrival : Arrival} {caches : Caches}

/-! ## A context keeps its cache -/

/-- A start changes much about a context, but not its cache. -/
theorem Dispatched.begun_cache (m : Dispatched d arrival caches)
    (created : m.context.stage = .created) : m.begun.1.cache = m.context.cache := by
  rw [begun, Context.start_created (c := asSubscribers m.context) created]
  rfl

variable (d arrival caches) in
/-- Which context an invocation has at its outcome: the one that was built for it, or none. -/
inductive Keeping (c : Course) : Prop
  | none : ¬ Nonempty (Equipped d arrival caches) → c.run.built = .none → Keeping c
  | some (m : Equipped d arrival caches) (b : Built) : c.run.built = .some b →
      b.context.cache = m.context.cache → Keeping c

theorem Started.keeping (m : Started d arrival caches) {c : Course}
    (built : c.run.built = .some ⟨m.user, m.query, m.begun.1, .some false⟩) :
    Keeping d arrival caches c :=
  .some m.toEquipped _ built (m.begun_cache m.created)

theorem Passage.keeping {id : Value} {c : Course} (p : Passage d arrival caches id c) :
    Keeping d arrival caches c := by
  cases p with
  | unopened f h => exact .none (fun ⟨m⟩ => nomatch h.symm.trans m.opened) rfl
  | rejected m x h => exact .none (fun ⟨m⟩ => nomatch h.symm.trans m.addressed) rfl
  | misunderstood m f h =>
      refine .none (fun ⟨m'⟩ => ?_) rfl
      cases Subsingleton.elim m m'.toAddressed
      exact nomatch h.symm.trans m'.understood
  | refused m f h =>
      refine .none (fun ⟨m'⟩ => ?_) rfl
      cases Subsingleton.elim m m'.toUnderstood
      exact nomatch h.symm.trans m'.admitted
  | unnoted m f h =>
      refine .none (fun ⟨m'⟩ => ?_) rfl
      cases Subsingleton.elim m m'.toAdmitted
      exact nomatch h.symm.trans m'.noted
  | unequipped m f h =>
      refine .none (fun ⟨m'⟩ => ?_) rfl
      cases Subsingleton.elim m m'.toNoted
      exact nomatch h.symm.trans m'.equipped
  | undispatched m f h => exact .some m _ rfl rfl
  | startedBefore m started => exact .some m.toEquipped _ rfl rfl
  | unstarted m f created h => exact .some m.toEquipped _ rfl (m.begun_cache created)
  | unperformed m => exact m.keeping rfl
  | unwritten m => exact m.toStarted.keeping rfl
  | unanswered m => exact m.toStarted.keeping rfl
  | answered m => exact m.toStarted.keeping rfl

theorem close_built (d : Deployment) (o : Except Failure Response) (behind : List CacheEffect)
    (r : Run) : (close d o behind r).run.built = r.built := by
  rw [close_run]

/-- Whoever built a context has it at the end, with the cache that it was built with. -/
theorem handle_built (m : Equipped d arrival caches) (requestId : Value) (fresh : Text) :
    ∃ b, (handle d arrival requestId fresh caches).run.built = some b ∧
      b.context.cache = m.context.cache := by
  have passage := course_passage d arrival caches (initialId requestId fresh)
  have built : (handle d arrival requestId fresh caches).run.built =
      (course d arrival (initialId requestId fresh) caches).run.built := close_built ..
  rw [built]
  cases passage.keeping with
  | none none => exact absurd ⟨m⟩ none
  | some m' b here same =>
      cases Subsingleton.elim m m'
      exact ⟨b, here, same⟩

/-- An invocation with a context at its end had one built. -/
theorem equipped_of_built (requestId : Value) (fresh : Text)
    (h : (handle d arrival requestId fresh caches).run.built.isSome = true) :
    Nonempty (Equipped d arrival caches) := by
  have built : (handle d arrival requestId fresh caches).run.built =
      (course d arrival (initialId requestId fresh) caches).run.built := close_built ..
  rw [built] at h
  cases (course_passage d arrival caches (initialId requestId fresh)).keeping with
  | none _ none => rw [none] at h; cases h
  | some m => exact ⟨m⟩

/-! ## What is left in it -/

/-- An adapter that is set up with a cache or none, and a context that is built with a cache or
none. The context is there at the end, with its cache. If both were given the same, or come to the
same by default, nothing is left in the cache of the context, whatever the outcome. If not, it is
left as it was at the outcome. -/
theorem context_cache_left {className : Text} {hasSchema : Bool} {given : Option CacheName}
    {s : Settings} {setup : Setup} (made : Setup.make className hasSchema given s = .ok setup)
    (uses : d.cache = setup.cache) (m : Equipped d arrival caches) {chosen : Option CacheName}
    (built : m.context.cache = (Context.new (σ := CacheEffect) chosen).cache) (requestId : Value)
    (fresh : Text) :
    let v := handle d arrival requestId fresh caches
    (∃ b, v.run.built = some b ∧ b.context.cache = m.context.cache) ∧
      (chosen.getD .process = given.getD .process →
        v.run.caches m.context.cache = Cache.empty) ∧
      (chosen.getD .process ≠ given.getD .process →
        v.run.caches m.context.cache =
          (course d arrival (initialId requestId fresh) caches).run.caches m.context.cache) := by
  intro v
  have adapter : d.cache = given.getD .process := by
    rw [Setup.make] at made
    split at made
    · cases made
      exact uses
    · cases made
  have context : m.context.cache = chosen.getD .process := built
  have emptied : v.run.caches =
      (course d arrival (initialId requestId fresh) caches).run.caches.set d.cache Cache.empty := by
    show (handle d arrival requestId fresh caches).run.caches = _
    rw [handle, close_run]
  refine ⟨handle_built m requestId fresh, fun same => ?_, fun apart => ?_⟩
  · rw [context, same, ← adapter]
    exact handle_evicts d arrival requestId fresh caches
  · rw [emptied, Caches.set, if_neg]
    rwa [context, adapter]

/-! ## Two caches -/

open Rehearsal in
/-- A deployment on a cache of its own. Its contexts are given a cache or none, and its engine
leaves an entry in the cache of the context. -/
def contextCacheDeployment (chosen : Option CacheName) : Deployment :=
  { cachingDeployment none with
    buildContext := fun _ _ caches => (.ok (.new chosen), caches)
    dispatch := fun _ _ c caches =>
      (.ok ⟨fun caches => (.ok report, (leaveIn c.cache [(.text "loaded", .int 7)] caches).2, [])⟩,
        caches) }

theorem contextCacheDeployment_context {chosen : Option CacheName}
    (m : Equipped (contextCacheDeployment chosen) arrival caches) :
    m.context.cache = (Context.new (σ := CacheEffect) chosen).cache := by
  rw [← Except.ok.inj m.equipped]

open Rehearsal in
/-- With contexts on the cache of the adapter, nothing is left in it. -/
theorem context_cache_left_sharedCache :
    ∃ m : Equipped (contextCacheDeployment (some (.own 0))) (.event helloEvent) Caches.empty,
      (handle (contextCacheDeployment (some (.own 0))) (.event helloEvent) .null "id"
        Caches.empty).run.caches m.context.cache = Cache.empty := by
  have built : (handle (contextCacheDeployment (some (.own 0))) (.event helloEvent) .null "id"
      Caches.empty).run.built.isSome = true := by decide +kernel
  have made : Setup.make "Adapter" true (some (.own 0)) {} =
      .ok ⟨.own 0, false, false, false⟩ := rfl
  obtain ⟨m⟩ := equipped_of_built .null "id" built
  exact ⟨m, (context_cache_left made rfl m (contextCacheDeployment_context m) .null "id").2.1 rfl⟩

open Rehearsal in
/-- With contexts that were given none, an entry of one invocation is there for the next. -/
theorem context_cache_survives :
    ¬ ∀ (d : Deployment) (arrival : Arrival) (caches : Caches) (m : Equipped d arrival caches)
      (requestId : Value) (fresh : Text),
      (handle d arrival requestId fresh caches).run.caches m.context.cache = Cache.empty := by
  intro claimed
  have built : (handle (contextCacheDeployment none) (.event helloEvent) .null "id"
      Caches.empty).run.built.isSome = true := by decide +kernel
  have filled : ((handle (contextCacheDeployment none) (.event helloEvent) .null "id"
      Caches.empty).run.caches .process).nonempty = true := by decide +kernel
  obtain ⟨m⟩ := equipped_of_built .null "id" built
  have default : m.context.cache = .process := contextCacheDeployment_context m
  have empty := claimed _ _ _ m .null "id"
  rw [default] at empty
  rw [empty] at filled
  cases filled

end QueryGateway.Invocation
