import Mathlib.Data.List.Nodup
import QueryGateway.Proofs.Failure.Encoding
import QueryGateway.Proofs.Http.Gzip
import QueryGateway.Proofs.Http.Header
import QueryGateway.Proofs.Text.Case
import QueryGateway.Server.Message

/-!
# What a request becomes, and what a reply tells

A request becomes an event: its headers get names in small letters, and its body becomes a text.
Neither changes what an invocation sees, as long as no two names are the same but for their case
(`get?_table`) and the body is UTF-8 (`decodeLossy_of_decode?`).

A reply gives the bytes that a response stands for. `Reply.content` is what a client makes of them,
who takes out of the container what the reply says is compressed, and `Response.Holds` is what an
adapter makes: a text, written in one of two ways. Of such a response the reply tells everything
(`Reply.ofResponse_tells`).
-/

namespace QueryGateway

/-! ## Names in small letters -/

/-- A name in small letters passes for a word without a `k` exactly if it is that word. -/
theorem Text.lower_lower_eq_iff {t w : Text} (ascii : w.IsAscii)
    (plain : CodePoint.ofChar 'k' ∉ w) : t.lower.lower = w ↔ t.lower = w := by
  constructor
  · intro h
    have spelled : t.lower.asciiLower = w := (lower_eq_iff ascii plain).mp h
    have inner : t.lower.IsAscii := by
      refine isAscii_of_asciiLower ?_
      rwa [spelled]
    have without : CodePoint.ofChar 'k' ∉ t.lower := by
      intro mem
      have kept : CodePoint.asciiLower 'k' ∈ t.lower.asciiLower := List.mem_map_of_mem mem
      rw [spelled] at kept
      exact plain kept
    have small := lower_of_isAscii (isAscii_of_lowerAfter inner without)
    rw [small, asciiLower_asciiLower] at spelled
    rw [small, spelled]
  · rintro rfl
    have small := lower_of_isAscii (isAscii_of_lowerAfter ascii plain)
    rw [lower_of_isAscii ascii, small, asciiLower_asciiLower]

namespace Server

open Http (Headers)

/-- The headers of a request with their names in small letters. -/
abbrev lowered (sent : List (Text × Text)) : Headers := sent.map fun h => (h.1.lower, h.2)

/-- No two headers of a request have the same name, whatever the case. -/
def Distinct (sent : List (Text × Text)) : Prop := (sent.map fun h => h.1.lower).Nodup

theorem literal?_eq_none {headers : Headers} {name : Text} (h : name ∉ headers.map Prod.fst) :
    headers.literal? name = none := by
  rw [Headers.literal?_eq_none_iff]
  rintro header mem rfl
  exact h (List.mem_map_of_mem mem)

/-- The induction is on the headers that are still to come. -/
theorem foldl_table {headers : Headers} {sent : List (Text × Text)}
    (distinct : (headers.map Prod.fst ++ sent.map fun h => h.1.lower).Nodup) :
    sent.foldl
        (fun (hs : Headers) h =>
          if (hs.literal? h.1.lower).isSome then hs else hs ++ [(h.1.lower, h.2)]) headers =
      headers ++ lowered sent := by
  induction sent generalizing headers with
  | nil => exact (List.append_nil _).symm
  | cons h rest ih =>
      have new : h.1.lower ∉ headers.map Prod.fst := by
        rw [List.map_cons, List.nodup_middle, List.nodup_cons, List.mem_append, not_or] at distinct
        exact distinct.1.1
      rw [List.foldl_cons, literal?_eq_none new]
      have first : ((headers ++ [(h.1.lower, h.2)]).map Prod.fst ++
          rest.map fun h => h.1.lower).Nodup := by
        rwa [List.map_append, List.map_singleton, List.append_assoc]
      exact (ih first).trans (List.append_assoc ..)

theorem table_eq {sent : List (Text × Text)} (distinct : Distinct sent) :
    table sent = lowered sent :=
  foldl_table distinct

theorem Distinct.eq {sent : List (Text × Text)} (distinct : Distinct sent) {h h' : Text × Text}
    (mem : h ∈ sent) (mem' : h' ∈ sent) (same : h.1.lower = h'.1.lower) : h = h' :=
  List.inj_on_of_nodup_map distinct mem mem' same

/-- The event of a request has the headers that were sent, as far as they can be told apart. -/
theorem get?_table {sent : List (Text × Text)} (distinct : Distinct sent) {name : Text}
    (ascii : name.lower.IsAscii) (plain : CodePoint.ofChar 'k' ∉ name.lower) :
    (table sent).get? name = Headers.get? sent name := by
  have asSent : Headers.Unambiguous sent name := fun h mem h' mem' same same' =>
    distinct.eq mem mem' (same.trans same'.symm)
  have inTable : Headers.Unambiguous (lowered sent) name := by
    intro _ lowered _ lowered' same same'
    obtain ⟨h, mem, rfl⟩ := List.mem_map.mp lowered
    obtain ⟨h', mem', rfl⟩ := List.mem_map.mp lowered'
    have same := (Text.lower_lower_eq_iff ascii plain).mp same
    have same' := (Text.lower_lower_eq_iff ascii plain).mp same'
    rw [distinct.eq mem mem' (same.trans same'.symm)]
  have sought (h : Text × Text) :
      decide (h.1.lower.lower = name.lower) = decide (h.1.lower = name.lower) :=
    decide_eq_decide.mpr (Text.lower_lower_eq_iff ascii plain)
  rw [table_eq distinct, asSent.get?_eq, inTable.get?_eq, Headers.folded?, Headers.folded?, lowered,
    List.find?_map]
  simp only [Function.comp_def, sought, Option.map_map]

end Server

/-! ## What a response holds, and what a reply tells of it -/

/-- A response that holds a text: as it is, or compressed and marked so in both places. -/
inductive Invocation.Response.Holds (t : Text) : Invocation.Response → Prop
  | plain (status : Int) : t.IsScalar → Holds t (.plain status t)
  | compressed (status : Int) : t.IsScalar → Holds t (.compressed status t)

namespace Server

open Invocation (Response)

/-- The text that a client makes of a reply: if the reply is marked as compressed, the client takes
it out of the container. -/
def Reply.content (r : Reply) : Option Text :=
  if r.headers.literal? "content-encoding" = some "gzip" then
    Http.Gzip.restore? r.body >>= Utf8.decode?
  else Utf8.decode? r.body

/-- A reply tells what a response holds: it has the same status, the same headers with names in small
letters, and beside these only its length; and a client makes the same text of it. -/
structure Reply.Tells (reply : Reply) (response : Response) : Prop where
  status : reply.status = response.status
  headers : reply.headers.filter (fun h => h.1 ≠ ("content-length" : Text)) =
    lowered response.headers
  content : ∃ t, reply.content = some t ∧ response.content = some t

theorem Reply.ofResponse_tells {response : Response} {t : Text} (h : response.Holds t) :
    ∃ reply, ofResponse response = .ok reply ∧ reply.Tells response := by
  cases h with
  | plain status unicode =>
      have bytes : bytesOf (.plain status t) = .ok (Utf8.encode t) :=
        Utf8.encodeStrictly_of_isScalar unicode
      refine ⟨withLength status (lowered (Http.responseHeaders false)) (Utf8.encode t), ?_, rfl,
        rfl, t, ?_, rfl⟩
      · rw [ofResponse, bytes]
        rfl
      · exact Utf8.decode?_encode unicode
  | compressed status unicode =>
      have stored : Base64.decode? Base64.standard (Http.Gzip.encodeText t) =
          some (Http.Gzip.store (Utf8.encode t)) :=
        Base64.decode?_encodePadded _
      have bytes : bytesOf (.compressed status t) = .ok (Http.Gzip.store (Utf8.encode t)) := by
        show Except.ok ((Base64.decode? Base64.standard (Http.Gzip.encodeText t)).getD []) = _
        rw [stored]
        rfl
      refine ⟨withLength status (lowered (Http.responseHeaders true))
        (Http.Gzip.store (Utf8.encode t)), ?_, rfl, rfl, t, ?_,
        Http.Gzip.decodeText?_encodeText unicode⟩
      · rw [ofResponse, bytes]
        rfl
      · show (Http.Gzip.restore? (Http.Gzip.store (Utf8.encode t)) >>= Utf8.decode?) = some t
        rw [Http.Gzip.restore?_store]
        exact Utf8.decode?_encode unicode

end Server

end QueryGateway
