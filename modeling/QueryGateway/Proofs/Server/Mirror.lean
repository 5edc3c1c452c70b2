import QueryGateway.Proofs.Invocation.Content
import QueryGateway.Proofs.Invocation.Shape
import QueryGateway.Proofs.Server.Message
import QueryGateway.Server.Application

/-!
# The local server answers as the gateway does

Whoever asks the local server gets what a client of the gateway gets: the same status, the same
headers, the same text, and a failure that escapes from one escapes from the other
(`serve_mirrors`). The gateway is given the bytes of the body in base64, and the headers as they were
sent; the server makes a text of the bytes itself, and small letters of the names.

The two part where the bytes are not UTF-8. The gateway refuses them, the server puts replacement
characters in their place and goes on. If what this leads to is no query it is refused as well, and
with failures hidden one refusal looks like the other; if it is a query the server runs it
(`lossy_body_parts`).

What is NOT here: what else the two leave behind. Their records have different ids.
-/

namespace QueryGateway

open Text

/-! ## Every response holds a text -/

namespace Invocation

variable {d : Deployment} {arrival : Arrival} {caches : Caches}

theorem responseTo_holds (headers : Http.Headers) {body : Text} (unicode : body.IsScalar)
    (compress : Bool) : (responseTo headers body compress).Holds body := by
  unfold responseTo
  split
  · exact .compressed 200 unicode
  · exact .plain 200 unicode

theorem Written.holds (m : Written d arrival caches) {response : Response}
    (h : m.response = .ok response) : response.Holds m.body := by
  obtain ⟨compress, -, rfl⟩ := Except.map_ok h
  exact responseTo_holds m.event.headers (dump_isPrintable m.written).isScalar compress

/-- A report may hold any text, so only a failure that is not shown is sure to hold one that can be
sent. -/
theorem failureResponse_holds {room : Json.Room} {f : Failure} {response : Response}
    (h : failureResponse room f false = .ok response) : ∃ t, response.Holds t := by
  rw [failureResponse] at h
  split at h
  · obtain ⟨document, body, -, written, rfl⟩ := denialResponse_ok h
    exact ⟨body, .plain 200 (dump_isPrintable written).isScalar⟩
  · cases h
    exact ⟨internalServerError, .plain 500 (isScalar_iff.mp (by decide))⟩

/-- Whatever an invocation answers that hides its failures holds a text. -/
theorem handle_holds (hidden : d.shows = false) {requestId : Value} {fresh : Text}
    {response : Response}
    (h : (handle d arrival requestId fresh caches).ending = .answered response) :
    ∃ t, response.Holds t := by
  have passage := course_passage d arrival caches (initialId requestId fresh)
  rw [handle_ending, hidden] at h
  cases outcome : verdict d arrival caches with
  | ok made =>
      rw [outcome] at h
      cases h
      obtain ⟨m, made, -⟩ := passage.records_ok (passage.outcome_eq.trans outcome)
      exact ⟨m.body, m.holds made⟩
  | error f =>
      rw [outcome] at h
      exact failureResponse_holds (conclude_answered h).2

/-! ## Arrivals that cannot be told apart -/

/-- Two arrivals with the same query, credentials and willingness to take what is compressed come to
the same. -/
theorem verdict_congr {a b : Arrival} {e e' : Event} (read : a.read = .ok e) (read' : b.read = .ok e')
    (query : a.query = b.query) (same : credentials e = credentials e')
    (accepts : Http.AcceptEncoding.acceptsGzip e.headers = Http.AcceptEncoding.acceptsGzip e'.headers)
    (caches : Caches) : verdict d a caches = verdict d b caches := by
  have queried : (decodeBody e >>= Query.parse) = (decodeBody e' >>= Query.parse) := by
    rwa [Arrival.query, Arrival.query, read, read'] at query
  have response (body : Text) : responseTo e.headers body = responseTo e'.headers body := by
    funext compress
    rw [responseTo, responseTo, accepts]
  unfold verdict
  simp only [read, read', Except.mapError_ok, Except.ok_bind, queried, same, response]

theorem verdict_unread {f : Failure} (unread : arrival.query = .error f) :
    verdict d arrival caches = (d.showFailureCause >>= fun _ => .error f) := by
  rw [Arrival.query] at unread
  unfold verdict
  cases d.showFailureCause with
  | error g => rfl
  | ok showCause =>
      cases read : arrival.read with
      | error x =>
          rw [read] at unread
          cases unread
          rfl
      | ok e =>
          rw [read] at unread
          show (decodeBody e >>= Query.parse >>= _) = .error f
          rw [show (decodeBody e >>= Query.parse) = .error f from unread, Except.error_bind]

/-- Two arrivals without a query are refused alike, if failures are hidden. -/
theorem conclude_unread {a b : Arrival} {f g : Failure} (unread : a.query = .error f)
    (unread' : b.query = .error g) (hidden : d.shows = false) (caches caches' : Caches) :
    conclude (denialRoom d.room) d.shows (verdict d a caches) =
      conclude (denialRoom d.room) d.shows (verdict d b caches') := by
  rw [verdict_unread unread, verdict_unread unread', hidden]
  cases d.showFailureCause with
  | error h => rfl
  | ok showCause =>
      obtain ⟨body, refused, told⟩ :=
        conclude_harmless (Arrival.query_harmless unread) (denialRoom d.room) false
      obtain ⟨body', refused', told'⟩ :=
        conclude_harmless (Arrival.query_harmless unread') (denialRoom d.room) false
      rw [Except.ok_bind, Except.ok_bind, refused, refused', told rfl, told' rfl]

end Invocation

/-! ## The two ways to an adapter -/

namespace Server

open Invocation

/-- What a client of the gateway causes that sends the same headers and the same bytes: an event with
these headers, and the bytes in base64. What else the gateway tells is not the client's. -/
structure Forwarded (r : Request) (arrival : Arrival) (e : Event) : Prop where
  read : arrival.read = .ok e
  headers : e.headers = r.headers
  isBase64 : e.isBase64 = true
  body : e.body = some (Base64.encodePadded Base64.standard r.body)

/-- A reply that tells what an invocation answered, or the failure that escaped from it. -/
inductive Mirrors : Except Failure Reply → Ending → Prop
  | answered {reply : Reply} {response : Response} : reply.Tells response →
      Mirrors (.ok reply) (.answered response)
  | escaped (f : Failure) : Mirrors (.error f) (.escaped f)

section
variable {r : Request} {arrival : Arrival} {e : Event}

theorem mirrors_ofVisit {d : Deployment} (hidden : d.shows = false) {arrival : Arrival}
    {caches : Caches} {requestId : Value} {fresh : Text} :
    Mirrors (Exchange.ofVisit (handle d arrival requestId fresh caches)).reply
      (handle d arrival requestId fresh caches).ending := by
  rw [Exchange.ofVisit]
  cases ending : (handle d arrival requestId fresh caches).ending with
  | answered response =>
      obtain ⟨t, holds⟩ := handle_holds hidden ending
      obtain ⟨reply, made, tells⟩ := Reply.ofResponse_tells holds
      show Mirrors (Reply.ofResponse response) (.answered response)
      rw [made]
      exact .answered tells
  | escaped f => exact .escaped f

/-- A header whose name has no `k` is found in the event of a request as it is among the headers
that were sent. -/
theorem Forwarded.get? (forwarded : Forwarded r arrival e) (distinct : Distinct r.headers)
    {name : Text} (ascii : name.lower.IsAscii) (plain : CodePoint.ofChar 'k' ∉ name.lower) :
    r.event.headers.get? name = e.headers.get? name := by
  rw [forwarded.headers]
  exact get?_table distinct ascii plain

theorem Forwarded.query_eq (forwarded : Forwarded r arrival e) {t : Text}
    (text : Utf8.decode? r.body = some t) :
    (Arrival.event r.event).query = arrival.query := by
  have sent : decodeBody e = .ok (some t) := by
    rw [decodeBody, forwarded.isBase64, forwarded.body]
    show (decodeBase64 _).map some = _
    rw [decodeBase64_ok.mpr ⟨r.body, Base64.decode?_encodePadded _, text⟩]
    rfl
  have made : decodeBody r.event = .ok (some t) := by
    show Except.ok (some (Utf8.decodeLossy r.body)) = _
    rw [Utf8.decodeLossy_of_decode? text]
  show (decodeBody r.event >>= Query.parse) = _
  rw [Arrival.query, forwarded.read, Except.mapError_ok, Except.ok_bind, sent, made]

/-- Bytes that are not UTF-8 are refused by the gateway. -/
theorem Forwarded.unread (forwarded : Forwarded r arrival e) (noText : Utf8.decode? r.body = none) :
    ∃ f, arrival.query = .error f := by
  cases query : arrival.query with
  | error f => exact ⟨f, rfl⟩
  | ok q =>
      obtain ⟨e', t, read, carries, -⟩ := Arrival.query_ok.mp query
      cases forwarded.read.symm.trans read
      cases carries with
      | plain plain => exact nomatch plain.symm.trans forwarded.isBase64
      | encoded _ body bytes text =>
          cases forwarded.body.symm.trans body
          cases (Base64.decode?_encodePadded r.body).symm.trans bytes
          exact nomatch noText.symm.trans text

end

/-- A query that is posted is an invocation. -/
theorem serve_graphql (a : Application) {r : Request} (post : r.method = Route.graphql.method)
    (path : r.path = Route.graphql.path) (uptime : Nat) (fresh : Text) (caches : Caches) :
    a.serve uptime fresh r caches =
      .ofVisit (handle a.deployment (.event r.event) .null fresh caches) := by
  obtain ⟨method, path, headers, body⟩ := r
  cases post
  cases path
  rfl

/-- The local server mirrors the gateway: for every deployment that hides its failures, every body
and all headers with different names. The body is UTF-8, or what is made of it is no query. -/
theorem serve_mirrors (a : Application) {r : Request} (post : r.method = Route.graphql.method)
    (path : r.path = Route.graphql.path) (distinct : Distinct r.headers) {arrival : Arrival}
    {e : Event} (forwarded : Forwarded r arrival e) (hidden : a.deployment.shows = false)
    (readable : (Utf8.decode? r.body).isSome = true ∨ ∀ q, (Arrival.event r.event).query ≠ .ok q)
    (uptime : Nat) (fresh : Text) (requestId : Value) (fresh' : Text) (caches : Caches) :
    Mirrors (a.serve uptime fresh r caches).reply
      (handle a.deployment arrival requestId fresh' caches).ending := by
  have same : (handle a.deployment (.event r.event) .null fresh caches).ending =
      (handle a.deployment arrival requestId fresh' caches).ending := by
    rw [handle_ending, handle_ending]
    cases text : Utf8.decode? r.body with
    | some t =>
        refine congrArg _ (verdict_congr rfl forwarded.read (forwarded.query_eq text) ?_ ?_ caches)
        · exact forwarded.get? distinct (by decide) (by decide)
        · rw [Http.AcceptEncoding.acceptsGzip, Http.AcceptEncoding.acceptsGzip,
            forwarded.get? distinct (by decide) (by decide)]
    | none =>
        rw [text] at readable
        obtain ⟨g, unread'⟩ := forwarded.unread text
        cases unread : (Arrival.event r.event).query with
        | ok q => exact absurd unread (readable.resolve_left Bool.false_ne_true q)
        | error f => exact conclude_unread unread unread' hidden caches caches
  rw [serve_graphql a post path, ← same]
  exact mirrors_ofVisit hidden

/-! ## Bytes that are not UTF-8 -/

open Rehearsal in
/-- The server of a rehearsal that hides its failures. -/
def hidingApplication : Application :=
  ⟨"Rehearsal", "1", { cachingDeployment none with showFailureCause := .ok false }⟩

/-- The headers of a client with credentials. -/
def postedHeaders : List (Text × Text) :=
  [("AUTHORIZATION", "Bearer valid-token"), ("Accept-Encoding", "gzip")]

theorem postedHeaders_distinct : Distinct postedHeaders := by
  rw [Distinct]
  decide

/-- The request of such a client. -/
def postedRequest (body : Bytes) : Request := ⟨"POST", "/graphql", postedHeaders, body⟩

/-- What it is by way of the gateway. -/
def postedRequest.event (body : Bytes) : Event :=
  ⟨some (Base64.encodePadded Base64.standard body), postedHeaders, true, []⟩

theorem postedRequest.forwarded (body : Bytes) :
    Forwarded (postedRequest body) (.event (postedRequest.event body)) (postedRequest.event body) :=
  ⟨rfl, rfl, rfl, rfl⟩

/-- A query in UTF-8 is executed on both ways, and compressed. -/
theorem serve_mirrors_gzipped :
    let body := Utf8.encode "\x7b\"query\": \"\x7b hello \x7d\"\x7d"
    Mirrors (hidingApplication.serve 0 "id" (postedRequest body) Caches.empty).reply
        (handle hidingApplication.deployment (.event (postedRequest.event body)) .null "id"
          Caches.empty).ending ∧
      (handle hidingApplication.deployment (.event (postedRequest.event body)) .null "id"
        Caches.empty).ending.response?.map (·.isBase64) = some true := by
  intro body
  have text : (Utf8.decode? body).isSome = true := by decide +kernel
  refine ⟨?_, by decide +kernel⟩
  exact serve_mirrors hidingApplication rfl rfl postedHeaders_distinct
    (postedRequest.forwarded body) rfl (.inl text) 0 "id" .null "id" Caches.empty

/-- A query with a byte in it that is no UTF-8. -/
def invalidUtf8Body : Bytes := Utf8.encode "\x7b\"query\": \"" ++ [0xFF] ++ Utf8.encode "\"\x7d"

/-- What a server replies with and what an invocation answers have the same status. -/
theorem Mirrors.status_eq {reply : Except Failure Reply} {ending : Ending}
    (h : Mirrors reply ending) :
    reply.toOption.map (·.status) = ending.response?.map (·.status) := by
  cases h with
  | answered tells => exact congrArg some tells.status
  | escaped f => rfl

/-- The server executes a query that the gateway refuses, if its bytes are not UTF-8. -/
theorem lossy_body_parts :
    ¬ ∀ (a : Application) (r : Request), r.method = Route.graphql.method →
      r.path = Route.graphql.path → Distinct r.headers →
      ∀ (arrival : Arrival) (e : Event), Forwarded r arrival e → a.deployment.shows = false →
      ∀ (uptime : Nat) (fresh : Text) (requestId : Value) (fresh' : Text) (caches : Caches),
      Mirrors (a.serve uptime fresh r caches).reply
        (handle a.deployment arrival requestId fresh' caches).ending := by
  intro claimed
  have mirrors := claimed hidingApplication (postedRequest invalidUtf8Body) rfl rfl
    postedHeaders_distinct _ _ (postedRequest.forwarded invalidUtf8Body) rfl 0 "id" .null "id"
    Caches.empty
  have executed : (hidingApplication.serve 0 "id" (postedRequest invalidUtf8Body)
      Caches.empty).reply.toOption.map (·.status) = some 200 := by decide +kernel
  have refused : (handle hidingApplication.deployment
      (.event (postedRequest.event invalidUtf8Body)) .null "id"
      Caches.empty).ending.response?.map (·.status) = some 500 := by decide +kernel
  have same := executed.symm.trans (mirrors.status_eq.trans refused)
  cases same

end Server

end QueryGateway
