import QueryGateway.Proofs.Credential.Grant
import QueryGateway.Proofs.Invocation.Turns
import QueryGateway.Proofs.Sample.Question
import QueryGateway.Proofs.Server.Mirror

/-!
# Who somebody is told he is

A client that shows a key and asks for its profile is answered in five turns. Each turn has an equation
here, and there is one that looks into the cache: the engine finds a profile there, or makes one
(`loadProfile_of`). All that is told depends on what it finds.

The comparison of a token with a stored hash is a parameter. `verifyKey` is one, and with it the
deployment is the one of the sample (`deploymentBy_verifyKey`). Nothing here depends on what the
cipher does, and so the statements can be tried on tokens that nobody has to hash.

What is NOT here: clients that are turned away, and other questions.
-/

namespace QueryGateway

open Credential (ApiKey ApiUser Presents Validator)

/-! ## Any comparison of tokens with hashes -/

namespace Credential.Validator

variable (check : Text → Text → Bool)

/-- What a validator makes of a header, with a given comparison. -/
def validateBy (v : Validator) (authorization : Option Text) :
    Except Failure ApiUser × List Log.Record :=
  match bearerToken authorization with
  | .error f => (.error f, [])
  | .ok token =>
    match v.keys.find? fun k => check token k.keyHash with
    | none => (.error unknownKey, [])
    | some k =>
      if k.isActive then (.ok ⟨k.userId, k.keyId⟩, [])
      else (.error (inactiveKey k), [rejectedRecord k])

theorem validateBy_verifyKey (v : Validator) : v.validateBy verifyKey = v.validate := by
  funext authorization
  unfold validateBy validate
  cases bearerToken authorization <;> rfl

/-- The key is the first of the stored keys, in their order, that the token matches. -/
def FindsBy (v : Validator) (token : Text) (k : ApiKey) : Prop :=
  ∃ before after, v.keys = before ++ k :: after ∧ check token k.keyHash = true ∧
    ∀ e ∈ before, check token e.keyHash = false

theorem validateBy_ok {v : Validator} {authorization : Option Text} {token : Text} {k : ApiKey}
    (presents : Presents authorization token) (finds : v.FindsBy check token k)
    (active : k.status = activeStatus) :
    v.validateBy check authorization = (.ok ⟨k.userId, k.keyId⟩, []) := by
  obtain ⟨before, after, keys, matched, earlier⟩ := finds
  have found : v.keys.find? (fun k => check token k.keyHash) = some k :=
    List.find?_eq_some_iff_append.mpr
      ⟨matched, before, after, keys, fun e mem => (Bool.not_eq_true' _).mpr (earlier e mem)⟩
  have isActive : k.isActive = true := decide_eq_true active
  unfold validateBy
  rw [bearerToken_eq_ok.mpr presents]
  simp only [found, isActive, if_true]

end Credential.Validator

namespace Sample

open QueryGateway.Graph (Schema)
open Invocation
open Server (Exchange Reply)

/-- The sample with a given comparison. -/
def deploymentBy (check : Text → Text → Bool) (s : Settings) (v : Validator) : Deployment :=
  { deployment s v with
    validate := fun authorization caches =>
      let (outcome, records) := v.validateBy check authorization
      (outcome.map .owner, caches, records) }

theorem deploymentBy_verifyKey (s : Settings) (v : Validator) :
    deploymentBy Credential.verifyKey s v = deployment s v := by
  unfold deploymentBy
  rw [Validator.validateBy_verifyKey]
  rfl

/-! ## The profile in the cache -/

/-- The key of a profile, as a key. -/
def profileEntry (u : ApiUser) : Key × Value :=
  (.tuple [.text "profile", .text u.userId], profile u)

theorem same_profileEntry (u w : ApiUser) :
    (profileEntry w).1.same (profileEntry u).1 = true ↔ w.userId = u.userId := by
  simp [profileEntry, Key.same, Key.sameAll]

theorem insertInto_of_missing {k : Key} {v : Value} {entries : List (Key × Value)}
    (missing : (Cache.mk entries).get? k = none) :
    Cache.insertInto k v entries = entries ++ [(k, v)] := by
  rw [Cache.get?, Option.map_eq_none_iff, List.find?_eq_none] at missing
  induction entries with
  | nil => rfl
  | cons e rest ih =>
      obtain ⟨other, later⟩ := List.forall_mem_cons.mp missing
      rw [Cache.insertInto, if_neg other, ih later, List.cons_append]

/-- What is filed under the name of the user is what he gets, and the cache stays what it is. -/
theorem loadProfile_found {u : ApiUser} {caches : Caches} {v : Value}
    (found : (caches cache).get? (profileEntry u).1 = some v) :
    loadProfile u caches = (.ok v, caches.set cache (caches cache)) := by
  have keyed : Key.ofValue (profileKey u) = .ok (profileEntry u).1 := rfl
  unfold loadProfile Cache.getOrMake
  simp only [keyed, found]

/-- If nothing is, he gets his own profile, and it is filed. -/
theorem loadProfile_missing {u : ApiUser} {caches : Caches}
    (missing : (caches cache).get? (profileEntry u).1 = none) :
    loadProfile u caches =
      (.ok (profile u), caches.set cache ⟨(caches cache).entries ++ [profileEntry u]⟩) := by
  have keyed : Key.ofValue (profileKey u) = .ok (profileEntry u).1 := rfl
  unfold loadProfile Cache.getOrMake
  simp only [keyed, missing, Cache.insert, insertInto_of_missing missing]
  rfl

theorem get?_profileEntry {u w : ApiUser} (own : w.userId = u.userId) :
    Cache.get? ⟨[profileEntry w]⟩ (profileEntry u).1 = some (profile w) := by
  simp only [Cache.get?, List.find?_cons, (same_profileEntry u w).mpr own]
  rfl

/-- In a cache of profiles, a user finds one that is filed under his name, or makes his own. -/
theorem loadProfile_of {owns : ApiUser → Prop} {caches : Caches} (u : ApiUser)
    (profiles : ∀ entry ∈ (caches cache).entries, ∃ w, owns w ∧ entry = profileEntry w) :
    ∃ w caches', loadProfile u caches = (.ok (profile w), caches') ∧
      (w = u ∨ owns w ∧ w.userId = u.userId) ∧
      ∀ entry ∈ (caches' cache).entries, entry ∈ (caches cache).entries ∨ entry = profileEntry u := by
  cases found : (caches cache).get? (profileEntry u).1 with
  | some v =>
      obtain ⟨entry, first, rfl⟩ := Option.map_eq_some_iff.mp found
      obtain ⟨w, owned, rfl⟩ := profiles entry (List.mem_of_find?_eq_some first)
      have same := List.find?_some first
      have own : w.userId = u.userId := (same_profileEntry u w).mp same
      refine ⟨w, _, loadProfile_found found, .inr ⟨owned, own⟩, fun entry mem => .inl ?_⟩
      rwa [Caches.set, if_pos rfl] at mem
  | none =>
      refine ⟨u, _, loadProfile_missing found, .inl rfl, fun entry mem => ?_⟩
      rw [Caches.set, if_pos rfl] at mem
      exact (List.mem_append.mp mem).imp_right List.mem_singleton.mp

/-! ## The turns of a client -/

/-- An event asks for the profile of a user, who is let in. -/
structure Asking (check : Text → Text → Bool) (v : Validator) (e : Event) (u : ApiUser)
    (bindings : Members) : Prop where
  query : (decodeBody e >>= Query.parse) = .ok ⟨question, none, bindings⟩
  user : v.validateBy check (credentials e) = (.ok u, [])

/-- The query of a client. -/
abbrev asked (bindings : Members) : Query := ⟨question, none, bindings⟩

/-- What a client waits with. -/
abbrev waiting (e : Event) (u : ApiUser) (bindings : Members) : Prepared :=
  ⟨e, asked bindings, .ofSchema (schema (.owner u)) (asked bindings)⟩

/-- The call of a client. -/
abbrev callOf (check : Text → Text → Bool) (s : Settings) (v : Validator) (e : Event)
    (fresh : Text) : Call :=
  ⟨deploymentBy check s v, .event e, .null, fresh⟩

section
variable {check : Text → Text → Bool} {v : Validator} {e : Event} {u : ApiUser} {bindings : Members}
  (asking : Asking check v e u bindings) (s : Settings) (fresh : Text)
include asking

theorem Asking.turn_ahead (caches : Caches) :
    ∃ r, r.cancelling = false ∧ (callOf check s v e fresh).turn .ahead caches =
      (.introduced ⟨e, asked bindings⟩ r, caches) := by
  have ran (r : Run) : ∃ r', (introduce (deploymentBy check s v) (.event e)).run r =
      (.ok ⟨e, asked bindings⟩, r') ∧ r'.caches = r.caches ∧ r'.cancelling = r.cancelling := by
    simp only [introduce, run_bind, run_consult, run_modify, run_readEvent, run_ofExcept, run_pure,
      Arrival.read, Except.mapError_ok, asking.query]
    exact ⟨_, rfl, rfl, rfl⟩
  obtain ⟨r, ran, kept, live⟩ := ran { Run.initial caches (initialId .null fresh) with caches }
  exact ⟨r, live, Station.reach_ok ran kept _⟩

theorem Asking.turn_introduced {r : Run} (live : r.cancelling = false) (caches : Caches) :
    ∃ r', r'.cancelling = false ∧
      (callOf check s v e fresh).turn (.introduced ⟨e, asked bindings⟩ r) caches =
        (.admitted ⟨e, asked bindings⟩ (.owner u) r', caches) := by
  have ran (r : Run) : ∃ r', (authenticate (deploymentBy check s v) (credentials e)).run r =
      (.ok (.owner u), r') ∧ r'.caches = r.caches ∧ r'.cancelling = r.cancelling := by
    rw [run_authenticate]
    simp only [deploymentBy, asking.user]
    exact ⟨_, rfl, rfl, rfl⟩
  obtain ⟨r', ran, kept, still⟩ := ran { r with caches }
  exact ⟨r', still.trans live, Station.reach_ok ran kept _⟩

end

section
variable (check : Text → Text → Bool) (s : Settings) (v : Validator) (e : Event) (u : ApiUser)
  (bindings : Members) (fresh : Text)

theorem accessText_ok : ∃ shown, accessText (deploymentBy check s v) (.owner u) = .ok shown := by
  show ∃ shown, (if s.enableAccessLog = true then _ else _ : Except Failure (Option Text)) =
    .ok shown
  split
  · exact ⟨_, rfl⟩
  · exact ⟨_, rfl⟩

theorem turn_admitted {r : Run} (live : r.cancelling = false) (caches : Caches) :
    ∃ r', r'.cancelling = false ∧
      (callOf check s v e fresh).turn (.admitted ⟨e, asked bindings⟩ (.owner u) r) caches =
        (.awaiting (waiting e u bindings) r', caches) := by
  have built (q : Query) (x : Caches) :
      (deploymentBy check s v).buildContext (.owner u) q x = (.ok (.new (some cache)), x) := rfl
  have dispatched (q : Query) (c : InvocationContext) (x : Caches) :
      (deploymentBy check s v).dispatch (.owner u) q c x =
        (.ok (.ofSchema (schema (.owner u)) q), x) := rfl
  have ran (r : Run) : ∃ r', (equip (deploymentBy check s v) ⟨e, asked bindings⟩ (.owner u)).run r =
      (.ok (waiting e u bindings), r') ∧ r'.caches = r.caches ∧ r'.cancelling = r.cancelling := by
    obtain ⟨shown, noted⟩ := accessText_ok check s v u
    simp only [equip, run_bind, run_logAccess, noted, run_build, built, run_dispatch, dispatched]
    rw [run_start_created _ rfl rfl]
    exact ⟨_, rfl, rfl, rfl⟩
  obtain ⟨r', ran, kept, still⟩ := ran { r with caches }
  refine ⟨await r', still.trans live, ?_⟩
  exact Station.reach_ok ran kept fun p r => .awaiting p (await r)

/-- After three turns a client waits for its engine. -/
theorem Asking.turns_three {check : Text → Text → Bool} {v : Validator} {e : Event} {u : ApiUser}
    {bindings : Members} (asking : Asking check v e u bindings) (s : Settings) (fresh : Text)
    (caches : Caches) :
    ∃ r, r.cancelling = false ∧ (callOf check s v e fresh).turns 3 (.ahead, caches) =
      (.awaiting (waiting e u bindings) r, caches) := by
  obtain ⟨r, live, ahead⟩ := asking.turn_ahead s fresh caches
  obtain ⟨r, live, introduced⟩ := asking.turn_introduced s fresh live caches
  obtain ⟨r, live, admitted⟩ := turn_admitted check s v e u bindings fresh live caches
  refine ⟨r, live, ?_⟩
  simp only [Call.turns, ahead, introduced, admitted]

/-- The engine tells of the profile that is found or made. -/
theorem turn_awaiting {w : ApiUser} {caches caches' : Caches}
    (loaded : loadProfile u caches = (.ok (profile w), caches')) {r : Run}
    (live : r.cancelling = false) :
    ∃ r', (callOf check s v e fresh).turn (.awaiting (waiting e u bindings) r) caches =
      (.executed (waiting e u bindings) (.ok (told w)) r', caches') := by
  have ran : (waiting e u bindings).execution.run caches = (.ok (told w), caches', []) := by
    simp only [PendingExecution.ofSchema]
    rw [answer_question loaded]
  exact Call.turn_awaiting (c := callOf check s v e fresh) (p := waiting e u bindings) ran live

end

/-! ## What a client is told -/

/-- The document that tells a user who he is. -/
def card (u : ApiUser) : Value := Value.object [("data", Value.object [("me", profile u)])]

theorem listed_card (u : ApiUser) : (card u).listed = card u := rfl

theorem card_injective {u w : ApiUser} (h : card u = card w) : u = w := by
  have data := Value.object_injective h
  have me := Value.object_injective (congrArg Prod.snd (List.cons.inj data).1)
  have members := Value.object_injective (congrArg Prod.snd (List.cons.inj me).1)
  obtain ⟨id, rest⟩ := List.cons.inj members
  obtain ⟨keyId, -⟩ := List.cons.inj rest
  exact congrArg₂ ApiUser.mk (Value.text.inj (congrArg Prod.snd id))
    (Value.text.inj (congrArg Prod.snd keyId))

theorem document_card {fit : Text → Prop} (literals : ∀ w : String, fit (Text.ofString w))
    {u : ApiUser} (user : fit u.userId) (key : fit u.keyId) : Json.Document fit (card u) := by
  have distinct : List.Nodup [Text.ofString "id", Text.ofString "keyId"] := by decide
  have profile : Json.Document fit (profile u) :=
    .object distinct
      (List.forall_mem_cons.mpr ⟨literals "id", List.forall_mem_singleton.mpr (literals "keyId")⟩)
      (List.forall_mem_cons.mpr ⟨.text user, List.forall_mem_singleton.mpr (.text key)⟩)
  have data : Json.Document fit (Value.object [("me", Sample.profile u)]) :=
    .object (List.nodup_singleton _) (List.forall_mem_singleton.mpr (literals "me"))
      (List.forall_mem_singleton.mpr profile)
  exact .object (List.nodup_singleton _) (List.forall_mem_singleton.mpr (literals "data"))
    (List.forall_mem_singleton.mpr data)

/-- A reply reports a profile: it is a success, and what a client makes of it is JSON for the
profile, in which two halves of a surrogate pair side by side are the character that they spell. -/
structure Reports (reply : Reply) (u : ApiUser) : Prop where
  status : reply.status = 200
  content : ∃ t, reply.content = some t ∧ Json.read? Json.Dialect.unlimited t = some (card u).asRead

/-- Names in which every half of a surrogate pair is alone are read as they are. -/
theorem asRead_card {u : ApiUser} (user : u.userId.Unpaired) (key : u.keyId.Unpaired) :
    (card u).asRead = card u := by
  have literals (w : String) : (Text.ofString w).Unpaired :=
    Text.IsScalar.unpaired (Text.isScalar_ofString w)
  rw [(document_card literals user key).asRead_eq, listed_card]

/-- What the engine told is answered with a reply that reports it. -/
theorem answer_reports {d : Deployment} {u : ApiUser} {compress : Bool} (p : Prepared)
    (fits : Json.within d.room (Json.levels (card u)) = true)
    (switch : d.enableCompression = .ok compress) :
    ∃ response reply, (∀ r, ((answer d p (.ok (told u))).run r).1 = .ok response) ∧
      Reply.ofResponse response = .ok reply ∧ Reports reply u := by
  have document : Json.AnyDocument (card u) := document_card (fun _ => trivial) trivial trivial
  obtain ⟨t, written, read⟩ := document.read?_write
  have dumped : dumpDocument d.room (Value.object (told u).document) = .ok t :=
    dump_eq_ok_iff.mpr ⟨fits, written⟩
  have printable := dump_isPrintable dumped
  let response := responseTo p.event.headers t compress
  obtain ⟨reply, made, status, -, t', content', content⟩ :=
    Reply.ofResponse_tells (responseTo_holds p.event.headers printable.isScalar compress)
  cases (content_responseTo printable p.event.headers compress).symm.trans content
  refine ⟨response, reply, fun r => ?_, made, status.trans (status_responseTo ..), t, content',
    read⟩
  rw [run_answer]
  simp only [dumped, switch]
  rfl

/-- The last turn answers with what the engine told, and empties the cache. -/
theorem turn_executed (check : Text → Text → Bool) (s : Settings) (v : Validator) (e : Event)
    {u w : ApiUser} (bindings : Members) (fresh : Text) (r : Run) (caches : Caches) :
    ∃ visit caches' reply, (callOf check s v e fresh).turn
          (.executed (waiting e u bindings) (.ok (told w)) r) caches = (.gone visit, caches') ∧
        caches' cache = Cache.empty ∧ (Exchange.ofVisit visit).reply = .ok reply ∧
        Reports reply w := by
  have fits : Json.within (deploymentBy check s v).room (Json.levels (card w)) = true := rfl
  obtain ⟨response, reply, answers, made, reports⟩ := answer_reports (d := deploymentBy check s v)
    (waiting e u bindings) fits rfl
  obtain ⟨visit, caches', turned, ending, empty⟩ := Call.turn_executed
    (c := callOf check s v e fresh) answers r caches
  refine ⟨visit, caches', reply, turned, empty, ?_, reports⟩
  rw [Exchange.ofVisit, ending]
  exact made

/-- A reply reports one profile at most, as far as they can be told apart by a reader. -/
theorem Reports.unique {reply : Reply} {u w : ApiUser} (hu : Reports reply u)
    (hw : Reports reply w) : (card u).asRead = (card w).asRead := by
  obtain ⟨-, t, content, read⟩ := hu
  obtain ⟨-, t', content', read'⟩ := hw
  cases content.symm.trans content'
  exact Option.some.inj (read.symm.trans read')

end Sample

end QueryGateway
