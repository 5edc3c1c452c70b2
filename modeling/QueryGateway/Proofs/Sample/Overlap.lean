import QueryGateway.Proofs.Invocation.Interleaving
import QueryGateway.Proofs.Sample.Identity

/-!
# Clients of the sample that overlap

Any number of clients ask the sample who they are, each with a key of its own, and share the one
cache. Their turns come in any order.

Every entry of the cache is the profile that somebody made who is in flight, and so a client is told
his own profile or that of somebody he met: of the same user, for the name of the user is what the
profile is filed under. So nobody ever learns the name of another user. The key is another matter. A
profile tells of the key too, but it is not filed under it, and where two keys of one user are in
flight together, one client can be told the key of the other (`Clients.other_key_told`). Where they
are not, everybody is told exactly who he is (`Clients.overlapping_clients_told`).

The induction is on the order of the turns, from its end. `Position` says where a client stands after
so many turns of its own.

What is NOT here: clients that are turned away, and other questions.
-/

namespace QueryGateway

open Credential (ApiKey ApiUser Presents Validator)
open Invocation

/-- Whom a key belongs to. -/
def Credential.ApiKey.owner (k : ApiKey) : ApiUser := ⟨k.userId, k.keyId⟩

namespace Sample

open Server (Application Exchange Reply Request Route)

/-! ## Where a client stands -/

/-- Where a client stands after so many turns of its own: it goes from stage to stage, and what it has
heard is what it is told. -/
inductive Position (e : Event) (u : ApiUser) (bindings : Members) (heard : ApiUser → Prop) :
    Nat → Station → Prop
  | ahead : Position e u bindings heard 0 .ahead
  | introduced {r : Run} : r.cancelling = false →
      Position e u bindings heard 1 (.introduced ⟨e, asked bindings⟩ r)
  | admitted {r : Run} : r.cancelling = false →
      Position e u bindings heard 2 (.admitted ⟨e, asked bindings⟩ (.owner u) r)
  | awaiting {r : Run} : r.cancelling = false →
      Position e u bindings heard 3 (.awaiting (waiting e u bindings) r)
  | executed {w : ApiUser} (r : Run) : heard w →
      Position e u bindings heard 4 (.executed (waiting e u bindings) (.ok (told w)) r)
  | gone {n : Nat} {w : ApiUser} {visit : Visit} {reply : Reply} : 5 ≤ n → heard w →
      (Exchange.ofVisit visit).reply = .ok reply → Reports reply w →
      Position e u bindings heard n (.gone visit)

section
variable {check : Text → Text → Bool} {v : Validator} {e : Event} {u : ApiUser} {bindings : Members}
  {heard : ApiUser → Prop} {n : Nat} {station : Station}

theorem Position.mono {more : ApiUser → Prop} (h : Position e u bindings heard n station)
    (hears : ∀ w, heard w → more w) : Position e u bindings more n station := by
  cases h with
  | ahead => exact .ahead
  | introduced live => exact .introduced live
  | admitted live => exact .admitted live
  | awaiting live => exact .awaiting live
  | executed r told => exact .executed r (hears _ told)
  | gone long told replied reports => exact .gone long (hears _ told) replied reports

/-- There are five turns. -/
theorem Position.through (h : Position e u bindings heard n station) (long : 5 ≤ n) :
    ∃ visit, station = .gone visit := by
  cases h with
  | gone => exact ⟨_, rfl⟩
  | ahead | introduced | admitted | awaiting | executed => omega

/-- A client that is through was told of somebody it has heard of. -/
theorem Position.reports {visit : Visit} (h : Position e u bindings heard n (.gone visit)) :
    ∃ reply w, (Exchange.ofVisit visit).reply = .ok reply ∧ heard w ∧ Reports reply w := by
  cases h with
  | gone _ told replied reports => exact ⟨_, _, replied, told, reports⟩

/-- A turn leads on, and puts nothing into the cache but the own profile. In a cache of profiles the
client hears of itself, or of somebody with the same name who owns an entry. -/
theorem Position.turn (asking : Asking check v e u bindings) (s : Settings) (fresh : Text)
    (h : Position e u bindings heard n station) {caches : Caches} {owns : ApiUser → Prop}
    (profiles : ∀ entry ∈ (caches cache).entries, ∃ w, owns w ∧ entry = profileEntry w)
    (hears : station.inFlight = true → ∀ w, w = u ∨ owns w ∧ w.userId = u.userId → heard w) :
    Position e u bindings heard (n + 1) ((callOf check s v e fresh).turn station caches).1 ∧
      ∀ entry ∈ (((callOf check s v e fresh).turn station caches).2 cache).entries,
        entry ∈ (caches cache).entries ∨ entry = profileEntry u := by
  cases h with
  | ahead =>
      obtain ⟨r, live, turned⟩ := asking.turn_ahead s fresh caches
      rw [turned]
      exact ⟨.introduced live, fun entry mem => .inl mem⟩
  | introduced live =>
      obtain ⟨r, live, turned⟩ := asking.turn_introduced s fresh live caches
      rw [turned]
      exact ⟨.admitted live, fun entry mem => .inl mem⟩
  | admitted live =>
      obtain ⟨r, live, turned⟩ := turn_admitted check s v e u bindings fresh live caches
      rw [turned]
      exact ⟨.awaiting live, fun entry mem => .inl mem⟩
  | awaiting live =>
      obtain ⟨w, caches', loaded, whose, entries⟩ := loadProfile_of u profiles
      obtain ⟨r, turned⟩ := turn_awaiting check s v e u bindings fresh loaded live
      rw [turned]
      exact ⟨.executed r (hears rfl w whose), entries⟩
  | @executed w r told =>
      obtain ⟨visit, caches', reply, turned, empty, replied, reports⟩ :=
        turn_executed check s v e bindings fresh r caches
      have none : (caches' cache).entries = [] := congrArg Cache.entries empty
      rw [turned]
      exact ⟨.gone (by omega) told replied reports, none ▸ List.forall_mem_nil _⟩
  | gone long told replied reports =>
      exact ⟨.gone (by omega) told replied reports, fun entry mem => .inl mem⟩

end

/-! ## Any order of turns -/

/-- A request asks for the own profile, with the token of a key in use. -/
structure Asks (check : Text → Text → Bool) (v : Validator) (r : Request) (k : ApiKey) : Prop where
  method : r.method = Route.graphql.method
  path : r.path = Route.graphql.path
  query : ∃ bindings, (Arrival.event r.event).query = .ok ⟨question, none, bindings⟩
  token : ∃ token, Presents (credentials r.event) token ∧ v.FindsBy check token k
  active : k.status = Credential.activeStatus

section
variable {check : Text → Text → Bool} {v : Validator} {r : Request} {k : ApiKey}

theorem Asks.asking (h : Asks check v r k) :
    ∃ bindings, Asking check v r.event k.owner bindings := by
  obtain ⟨bindings, query⟩ := h.query
  obtain ⟨token, presents, finds⟩ := h.token
  exact ⟨bindings, query, Validator.validateBy_ok check presents finds h.active⟩

end

/-- Clients of the sample with the keys that they show, and the caches when the first of them comes:
that of the process is empty. The keys are those of the settings. -/
structure Clients (ι : Type) where
  check : Text → Text → Bool
  settings : Settings
  validator : Validator
  request : ι → Request
  key : ι → ApiKey
  fresh : ι → Text
  start : Caches
  configured : Validator.ofRecords settings.apiKeys = .ok validator
  asks : ∀ i, Asks check validator (request i) (key i)
  clean : start cache = Cache.empty

namespace Clients

variable {ι : Type} (c : Clients ι)

/-- The deployment that the clients share. -/
abbrev deployment : Deployment := deploymentBy c.check c.settings c.validator

/-- The call of a client. -/
abbrev call (i : ι) : Call := callOf c.check c.settings c.validator (c.request i).event (c.fresh i)

/-- A client that nobody interrupts is answered as the server answers. -/
theorem serve_eq (i : ι) {a : Application} (sample : a.deployment = c.deployment) (uptime : Nat)
    (caches : Caches) :
    a.serve uptime (c.fresh i) (c.request i) caches = .ofVisit ((c.call i).visit caches) := by
  rw [Server.serve_graphql a (c.asks i).method (c.asks i).path, sample, Call.visit]

variable [DecidableEq ι]

/-- The clients after turns in some order. -/
def after (order : List ι) : Crowd ι := Crowd.after c.call c.start (order.map Move.turn)

theorem after_snoc (order : List ι) (i : ι) :
    c.after (order ++ [i]) = (c.after order).put i
      ((c.call i).turn ((c.after order).station i) (c.after order).caches) := by
  rw [after, List.map_append, List.map_singleton, Crowd.after_snoc]
  rfl

theorem after_replicate (order : List ι) (i : ι) (n : Nat) :
    c.after (order ++ List.replicate n i) = (c.after order).put i
      ((c.call i).turns n ((c.after order).station i, (c.after order).caches)) := by
  induction n generalizing order with
  | zero =>
      rw [List.replicate_zero, List.append_nil]
      exact (Crowd.put_same _ i).symm
  | succ n ih =>
      rw [List.replicate_succ, List.append_cons, ih, after_snoc, Crowd.put_station_self,
        Crowd.put_put]
      rfl

/-- Two clients were in flight together at some point. -/
def Met (order : List ι) (i j : ι) : Prop :=
  ∃ before, before <+: order ∧ ((c.after before).station i).inFlight = true ∧
    ((c.after before).station j).inFlight = true

/-- A client can be told of a key of his own user that he met. -/
def Hears (order : List ι) (i : ι) (w : ApiUser) : Prop :=
  ∃ j, w = (c.key j).owner ∧ (c.key j).userId = (c.key i).userId ∧ c.Met order i j

/-- What holds at any time: everybody stands where his turns have led him, and every entry is the
profile of somebody in flight. -/
structure Orderly (order : List ι) : Prop where
  position : ∀ i, ∃ bindings,
    Asking c.check c.validator (c.request i).event (c.key i).owner bindings ∧
      Position (c.request i).event (c.key i).owner bindings (c.Hears order i) (order.count i)
        ((c.after order).station i)
  profiles : ∀ entry ∈ ((c.after order).caches cache).entries, ∃ w,
    (∃ j, w = (c.key j).owner ∧ ((c.after order).station j).inFlight = true) ∧
      entry = profileEntry w

variable {c}

theorem Hears.snoc {order : List ι} {i j : ι} {w : ApiUser} (h : c.Hears order i w) :
    c.Hears (order ++ [j]) i w := by
  obtain ⟨k, whose, own, before, part, met⟩ := h
  exact ⟨k, whose, own, before, part.trans (List.prefix_append ..), met⟩

theorem Orderly.nil : c.Orderly [] where
  position i := by
    obtain ⟨bindings, asking⟩ := (c.asks i).asking
    exact ⟨bindings, asking, .ahead⟩
  profiles := by
    show ∀ entry ∈ (c.start cache).entries, _
    rw [c.clean]
    exact List.forall_mem_nil _

theorem Orderly.snoc {order : List ι} (h : c.Orderly order) (i : ι) : c.Orderly (order ++ [i]) := by
  obtain ⟨bindings, asking, position⟩ := h.position i
  obtain ⟨next, entries⟩ := (position.mono fun w heard => heard.snoc).turn asking c.settings
    (c.fresh i) h.profiles fun flying w whose => by
      rcases whose with rfl | ⟨⟨j, rfl, flies⟩, own⟩
      · exact ⟨i, rfl, rfl, order, List.prefix_append .., flying, flying⟩
      · exact ⟨j, rfl, own, order, List.prefix_append .., flying, flies⟩
  have after := c.after_snoc order i
  constructor
  case position =>
    intro j
    by_cases same : j = i
    · subst same
      refine ⟨bindings, asking, ?_⟩
      rw [after, Crowd.put_station_self, List.count_append, List.count_singleton_self]
      exact next
    · obtain ⟨bindings, asking, stays⟩ := h.position j
      refine ⟨bindings, asking, ?_⟩
      have count : (order ++ [i]).count j = order.count j := by
        rw [List.count_append, List.count_singleton, if_neg (by simpa using Ne.symm same), add_zero]
      rw [after, Crowd.put_station_of_ne _ same, count]
      exact stays.mono fun w heard => heard.snoc
  case profiles =>
    have uses (i : ι) : (c.call i).Uses cache := rfl
    have moved : Crowd.Moved cache i (c.after order) (c.after (order ++ [i])) := by
      rw [after]
      exact Crowd.move_moved uses _ (.turn i)
    replace entries : ∀ entry ∈ ((c.after (order ++ [i])).caches cache).entries,
        entry ∈ ((c.after order).caches cache).entries ∨ entry = profileEntry (c.key i).owner := by
      rw [after]
      exact entries
    generalize c.after (order ++ [i]) = crowd at moved entries
    cases moved with
    | on inside others stay =>
        intro entry mem
        rcases entries entry mem with old | rfl
        · obtain ⟨w, ⟨j, whose, flies⟩, rfl⟩ := h.profiles entry old
          refine ⟨w, ⟨j, whose, ?_⟩, rfl⟩
          by_cases same : j = i
          · rwa [same]
          · rwa [others j same]
        · exact ⟨_, ⟨i, rfl, inside⟩, rfl⟩
    | out empty =>
        rw [empty]
        exact List.forall_mem_nil _
    | still => exact h.profiles

variable (c)

/-- Everybody stands where his turns have led him, whatever the order. -/
theorem orderly (order : List ι) : c.Orderly order := by
  induction order using List.reverseRecOn with
  | nil => exact .nil
  | append_singleton order i ih => exact ih.snoc i

/-- Clients that ask the sample who they are, each with the token of a key in use, all over the one
cache of the process, and in any order. Whoever has taken five turns is through, and whoever is
through was told of a key of his own user, that of somebody he was in flight with. So he is told
exactly who he is, unless he was in flight with another key of his user. -/
theorem overlapping_clients_told (order : List ι) (i : ι) :
    (∀ a : Application, a.deployment = c.deployment → ∀ uptime caches,
      a.serve uptime (c.fresh i) (c.request i) caches = .ofVisit ((c.call i).visit caches)) ∧
    (5 ≤ order.count i → ∃ visit, (c.after order).station i = .gone visit) ∧
    ∀ visit, (c.after order).station i = .gone visit →
      ∃ reply, (Exchange.ofVisit visit).reply = .ok reply ∧
        (∃ j, c.Met order i j ∧ (c.key j).userId = (c.key i).userId ∧
          Reports reply (c.key j).owner) ∧
        ((∀ j, c.Met order i j → (c.key j).userId = (c.key i).userId →
          (c.key j).keyId = (c.key i).keyId) → Reports reply (c.key i).owner) := by
  obtain ⟨bindings, -, position⟩ := (c.orderly order).position i
  refine ⟨fun a sample => c.serve_eq i sample, position.through, fun visit through => ?_⟩
  rw [through] at position
  obtain ⟨reply, w, replied, ⟨j, rfl, own, met⟩, reports⟩ := position.reports
  refine ⟨reply, replied, ⟨j, met, own, reports⟩, fun alone => ?_⟩
  have same : (c.key j).owner = (c.key i).owner := congrArg₂ ApiUser.mk own (alone j met own)
  exact same ▸ reports

/-! ## An order in which a client is told of another key -/

section
variable {c} {i : ι} {bindings : Members} {order : List ι} {crowd : Crowd ι}
  (there : c.after order = crowd)
include there

theorem after_waits
    (asking : Asking c.check c.validator (c.request i).event (c.key i).owner bindings)
    (ahead : crowd.station i = .ahead) :
    ∃ r, r.cancelling = false ∧ c.after (order ++ List.replicate 3 i) =
      crowd.put i (.awaiting (waiting (c.request i).event (c.key i).owner bindings) r,
        crowd.caches) := by
  obtain ⟨r, live, turned⟩ := asking.turns_three c.settings (c.fresh i) crowd.caches
  refine ⟨r, live, ?_⟩
  rw [after_replicate, there, ahead, turned]

theorem after_executes {w : ApiUser} {caches : Caches} {r : Run} (live : r.cancelling = false)
    (waits : crowd.station i =
      .awaiting (waiting (c.request i).event (c.key i).owner bindings) r)
    (loaded : loadProfile (c.key i).owner crowd.caches = (.ok (profile w), caches)) :
    ∃ r, c.after (order ++ [i]) = crowd.put i
      (.executed (waiting (c.request i).event (c.key i).owner bindings) (.ok (told w)) r,
        caches) := by
  obtain ⟨r, turned⟩ := turn_awaiting c.check c.settings c.validator (c.request i).event
    (c.key i).owner bindings (c.fresh i) loaded live
  refine ⟨r, ?_⟩
  rw [after_snoc, there, waits, turned]

theorem after_answers {w : ApiUser} {r : Run}
    (executed : crowd.station i =
      .executed (waiting (c.request i).event (c.key i).owner bindings) (.ok (told w)) r) :
    ∃ visit reply, (c.after (order ++ [i])).station i = .gone visit ∧
      (Exchange.ofVisit visit).reply = .ok reply ∧ Reports reply w := by
  obtain ⟨visit, caches, reply, turned, -, replied, reports⟩ := turn_executed c.check c.settings
    c.validator (c.request i).event bindings (c.fresh i) r crowd.caches
  refine ⟨visit, reply, ?_, replied, reports⟩
  rw [after_snoc, there, executed, turned, Crowd.put_station_self]

end

/-- A client waits for its engine while another has its profile made, and then is through. -/
def overtakingOrder (i j : ι) : List ι :=
  List.replicate 3 i ++ List.replicate 3 j ++ [j] ++ [i] ++ [i]

/-- If the other shows another key of the same user, the client is told that key. -/
theorem overtaken_reports {i j : ι} (apart : i ≠ j) (own : (c.key j).userId = (c.key i).userId) :
    ∃ visit reply, (c.after (overtakingOrder i j)).station i = .gone visit ∧
      (Exchange.ofVisit visit).reply = .ok reply ∧ Reports reply (c.key j).owner := by
  obtain ⟨bindings, asking⟩ := (c.asks i).asking
  obtain ⟨bindings', asking'⟩ := (c.asks j).asking
  have begun : c.after [] = Crowd.initial c.start := rfl
  obtain ⟨r, live, first⟩ := after_waits begun asking rfl
  obtain ⟨r', live', second⟩ := after_waits first asking' (Crowd.put_station_of_ne _ apart.symm _)
  -- The cache is empty, so the other makes its profile.
  have missing : (c.start cache).get? (profileEntry (c.key j).owner).1 = none := by
    rw [c.clean]
    rfl
  obtain ⟨r', third⟩ := after_executes second live' (Crowd.put_station_self ..)
    (loadProfile_missing missing)
  -- The profile is filed under the name of the user, so the client finds it.
  have found : (c.start.set cache
      ⟨(c.start cache).entries ++ [profileEntry (c.key j).owner]⟩ cache).get?
        (profileEntry (c.key i).owner).1 = some (profile (c.key j).owner) := by
    rw [Caches.set, if_pos rfl, c.clean]
    exact get?_profileEntry own
  obtain ⟨r, fourth⟩ := after_executes third live
    (by rw [Crowd.put_station_of_ne _ apart, Crowd.put_station_of_ne _ apart,
      Crowd.put_station_self])
    (loadProfile_found found)
  exact after_answers fourth (Crowd.put_station_self ..)

end Clients

/-! ## Clients that are told, and one that is told the wrong key -/

/-- A key of a user. -/
def keyOf (keyId keyHash user : Text) : ApiKey := ⟨keyId, keyHash, user, "active", none, none⟩

/-- The first key of a user. -/
def firstKey : ApiKey :=
  keyOf "key-1" "$2b$04$abcdefghijklmnopqrstuuro2PPe8hfMMM0I6tFHwGvkFNw4LKXue" "ada"

/-- The second key of the same user. -/
def secondKey : ApiKey :=
  keyOf "key-2" "$2b$04$abcdefghijklmnopqrstuuO8B51aJQR1YhrTp0LQNiFfDQ1SW02aO" "ada"

/-- The key of another user. -/
def otherKey : ApiKey :=
  keyOf "key-3" "$2b$04$abcdefghijklmnopqrstuuuojb/xvqdMPTdTkgoILSLVcJc8eTZ8W" "bob"

/-- The comparison of a token with a stored hash, as the cipher makes it for these keys. -/
def opens (token hash : Text) : Bool :=
  (token, hash) ∈ [(("active-key-123" : Text), firstKey.keyHash),
    ("spare-key-456", secondKey.keyHash), ("other-key-789", otherKey.keyHash)]

/-- The keys as they are stored. -/
def threeKeys : Validator := ⟨[firstKey, secondKey, otherKey]⟩

/-- The settings with these keys. -/
def threeKeySettings : Settings := { apiKeys := threeKeys.keys.map ApiKey.members }

theorem threeKeys_configured : Validator.ofRecords threeKeySettings.apiKeys = .ok threeKeys := by
  exact Validator.ofRecords_members ..

/-- The body of the question. -/
def questionBody : Text := "\x7b\"query\": \"\x7b me \x7b id keyId \x7d \x7d\"\x7d"

/-- The question of a client with a token. -/
def requestWith (token : Text) : Request :=
  ⟨"POST", "/graphql", [("authorization", "Bearer " ++ token)], Utf8.encode questionBody⟩

theorem requestWith_query (token : Text) :
    ∃ bindings, (Arrival.event (requestWith token).event).query = .ok ⟨question, none, bindings⟩ := by
  have decoded : Utf8.decodeLossy (Utf8.encode questionBody) = questionBody := by decide +kernel
  have parsed : (Query.parse (some questionBody)).toOption.map (fun q => (q.text, q.operationName)) =
      some (question, none) := by decide +kernel
  have query : (Arrival.event (requestWith token).event).query = Query.parse (some questionBody) := by
    show Query.parse (some (Utf8.decodeLossy (Utf8.encode questionBody))) = _
    rw [decoded]
  rw [query]
  generalize Query.parse (some questionBody) = outcome at parsed
  cases outcome with
  | error f => cases parsed
  | ok q =>
      obtain ⟨text, name, bindings⟩ := q
      cases parsed
      exact ⟨bindings, rfl⟩

/-- A client with the token of a stored key asks with that key. -/
theorem requestWith_asks {token : Text} {k : ApiKey} (solid : Text.Solid token)
    (finds : threeKeys.FindsBy opens token k) (active : k.status = Credential.activeStatus) :
    Asks opens threeKeys (requestWith token) k where
  method := rfl
  path := rfl
  query := requestWith_query token
  token := ⟨token, Credential.presents_bearer solid, finds⟩
  active := active

theorem firstKey_asks : Asks opens threeKeys (requestWith "active-key-123") firstKey :=
  requestWith_asks (by decide +kernel)
    ⟨[], [secondKey, otherKey], rfl, by decide +kernel, List.forall_mem_nil _⟩ rfl

/-- A client with the first key of a user, and one with another of the three keys. -/
def twoClients {token : Text} {k : ApiKey} (asks : Asks opens threeKeys (requestWith token) k) :
    Clients Bool where
  check := opens
  settings := threeKeySettings
  validator := threeKeys
  request second := requestWith (if second then token else "active-key-123")
  key second := if second then k else firstKey
  fresh _ := "id"
  start := Caches.empty
  configured := threeKeys_configured
  asks
    | true => asks
    | false => firstKey_asks
  clean := rfl

theorem secondKey_asks : Asks opens threeKeys (requestWith "spare-key-456") secondKey :=
  requestWith_asks (by decide +kernel)
    ⟨[firstKey], [otherKey], rfl, by decide +kernel, by decide +kernel⟩ rfl

theorem otherKey_asks : Asks opens threeKeys (requestWith "other-key-789") otherKey :=
  requestWith_asks (by decide +kernel)
    ⟨[firstKey, secondKey], [], rfl, by decide +kernel, by decide +kernel⟩ rfl

namespace Clients

/-- Two users at once are told who they are. -/
theorem overlapping_clients_told_twoUsers :
    ∀ i, ∃ visit reply,
      ((twoClients otherKey_asks).after (overtakingOrder false true ++ [true])).station i =
          .gone visit ∧
        (Exchange.ofVisit visit).reply = .ok reply ∧
        Reports reply ((twoClients otherKey_asks).key i).owner := by
  intro i
  obtain ⟨-, through, told⟩ :=
    overlapping_clients_told (twoClients otherKey_asks) (overtakingOrder false true ++ [true]) i
  have long : 5 ≤ (overtakingOrder false true ++ [true]).count i := by cases i <;> decide
  obtain ⟨visit, gone⟩ := through long
  obtain ⟨reply, replied, -, own⟩ := told visit gone
  refine ⟨visit, reply, gone, replied, own fun j _ same => ?_⟩
  have apart : firstKey.userId ≠ otherKey.userId := by decide
  cases i <;> cases j
  · rfl
  · exact absurd same.symm apart
  · exact absurd same apart
  · rfl

/-- Two clients of one user at once, each with its own key: one of them is told the key of the
other. -/
theorem other_key_told :
    ¬ ∀ (c : Clients Bool) (order : List Bool) (i : Bool) (visit : Visit),
      (c.after order).station i = .gone visit →
      ∃ reply, (Exchange.ofVisit visit).reply = .ok reply ∧ Reports reply (c.key i).owner := by
  intro claimed
  obtain ⟨visit, reply, gone, replied, other⟩ := overtaken_reports (twoClients secondKey_asks)
    Bool.false_ne_true (by decide +kernel)
  obtain ⟨reply', replied', own⟩ :=
    claimed (twoClients secondKey_asks) (overtakingOrder false true) false visit gone
  cases replied.symm.trans replied'
  have fused : (card secondKey.owner).asRead = (card firstKey.owner).asRead := other.unique own
  rw [asRead_card (by decide +kernel) (by decide +kernel),
    asRead_card (by decide +kernel) (by decide +kernel)] at fused
  exact absurd (congrArg ApiUser.keyId (card_injective fused)) (by decide +kernel)

end Clients

end Sample

end QueryGateway
