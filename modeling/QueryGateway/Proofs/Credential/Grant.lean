import QueryGateway.Console.Commands
import QueryGateway.Proofs.Credential.ApiKey
import QueryGateway.Proofs.Credential.Token

/-!
# Who is granted access

The decision of the validator, said without its steps: a request is granted if its header carries a
token (`Presents`) and the first stored key that the token verifies against (`Validator.Finds`) is in
use. Everything else is denied, and nothing else than a denial comes of it, whatever the stored hashes
and the token look like. The command that checks a key comes to the same verdict.

What is NOT said here: which hashes a token verifies against (`Proofs.Credential.KeyHash`), and what a
denial does to the request that it ends (`Proofs.Invocation.Passage`).
-/

namespace QueryGateway.Credential

open Text

/-! ## The stored keys -/

namespace Validator

variable {v : Validator} {token : Text} {k : ApiKey}

/-- The key is the first of the stored keys, in their order, that the token verifies against. -/
def Finds (v : Validator) (token : Text) (k : ApiKey) : Prop :=
  ∃ before after, v.keys = before ++ k :: after ∧ verifyKey token k.keyHash = true ∧
    ∀ e ∈ before, verifyKey token e.keyHash = false

theorem find?_eq_some : v.find? token = some k ↔ v.Finds token k := by
  rw [find?, List.find?_eq_some_iff_append]
  constructor
  · rintro ⟨verified, before, after, keys, earlier⟩
    exact ⟨before, after, keys, verified, fun e mem => Bool.not_eq_true' _ ▸ earlier e mem⟩
  · rintro ⟨before, after, keys, verified, earlier⟩
    exact ⟨verified, before, after, keys, fun e mem => (Bool.not_eq_true' _).mpr (earlier e mem)⟩

theorem Finds.unique {k' : ApiKey} (h : v.Finds token k) (h' : v.Finds token k') : k = k' :=
  Option.some.inj ((find?_eq_some.mpr h).symm.trans (find?_eq_some.mpr h'))

/-- What the validator makes of a header: each way with all that is answered and left behind. -/
inductive Judged (v : Validator) (authorization : Option Text) :
    Except Failure ApiUser × List Log.Record → Prop
  | granted {token : Text} {k : ApiKey} :
      Presents authorization token → v.Finds token k → k.status = activeStatus →
        Judged v authorization (.ok ⟨k.userId, k.keyId⟩, [])
  | inactive {token : Text} {k : ApiKey} :
      Presents authorization token → v.Finds token k → k.status ≠ activeStatus →
        Judged v authorization (.error (inactiveKey k), [rejectedRecord k])
  | unknown {token : Text} :
      Presents authorization token → (∀ k, ¬ v.Finds token k) →
        Judged v authorization (.error unknownKey, [])
  | malformed {f : Failure} :
      (∀ token, ¬ Presents authorization token) → Denial f →
        Judged v authorization (.error f, [])

theorem validate_judged (v : Validator) (authorization : Option Text) :
    v.Judged authorization (v.validate authorization) := by
  unfold validate
  split
  · rename_i f failed
    refine .malformed (fun token presents => ?_) (bearerToken_error failed)
    rw [bearerToken_eq_ok.mpr presents] at failed
    cases failed
  · rename_i token read
    have presents := bearerToken_eq_ok.mp read
    unfold grant
    split
    · rename_i none
      refine .unknown presents fun k finds => ?_
      rw [find?_eq_some.mpr finds] at none
      cases none
    · rename_i k found
      have finds := find?_eq_some.mp found
      split
      · rename_i active
        exact .granted presents finds (of_decide_eq_true active)
      · rename_i inactive
        exact .inactive presents finds fun active => inactive (decide_eq_true active)

variable {authorization : Option Text} {r : Except Failure ApiUser × List Log.Record}

/-- A token that verifies against a stored key decides the request by the status of the first one. -/
theorem Judged.of_finds (judged : v.Judged authorization r) (presents : Presents authorization token)
    (finds : v.Finds token k) :
    k.status = activeStatus ∧ r = (.ok ⟨k.userId, k.keyId⟩, []) ∨
      k.status ≠ activeStatus ∧ r = (.error (inactiveKey k), [rejectedRecord k]) := by
  cases judged with
  | granted presents' finds' active =>
      cases presents.unique presents'
      cases finds.unique finds'
      exact .inl ⟨active, rfl⟩
  | inactive presents' finds' inactive =>
      cases presents.unique presents'
      cases finds.unique finds'
      exact .inr ⟨inactive, rfl⟩
  | unknown presents' none =>
      cases presents.unique presents'
      exact absurd finds (none k)
  | malformed none => exact absurd presents (none token)

theorem Judged.ok_iff (judged : v.Judged authorization r) (u : ApiUser) :
    r.1 = .ok u ↔
      ∃ token k, Presents authorization token ∧ v.Finds token k ∧ k.status = activeStatus ∧
        u = ⟨k.userId, k.keyId⟩ := by
  constructor
  · intro granted
    cases judged with
    | granted presents finds active =>
        cases granted
        exact ⟨_, _, presents, finds, active, rfl⟩
    | inactive | unknown | malformed => cases granted
  · rintro ⟨token, k, presents, finds, active, rfl⟩
    rcases judged.of_finds presents finds with ⟨-, rfl⟩ | ⟨inactive, -⟩
    · rfl
    · exact absurd active inactive

theorem Judged.denial (judged : v.Judged authorization r) {f : Failure} (denied : r.1 = .error f) :
    Denial f := by
  cases judged with
  | granted => cases denied
  | inactive | unknown => exact ⟨_, (Except.error.inj denied).symm⟩
  | malformed _ denial => exact Except.error.inj denied ▸ denial

/-- Nothing is recorded unless the token belongs to a key that is not in use. -/
theorem Judged.records (judged : v.Judged authorization r) :
    (∀ token k, Presents authorization token → v.Finds token k → k.status ≠ activeStatus →
      r.2 = [rejectedRecord k]) ∧
    ((∀ token k, Presents authorization token → v.Finds token k → k.status = activeStatus) →
      r.2 = []) := by
  constructor
  · intro token k presents finds inactive
    rcases judged.of_finds presents finds with ⟨active, -⟩ | ⟨-, rfl⟩
    · exact absurd active inactive
    · rfl
  · intro active
    cases judged with
    | inactive presents finds inactive => exact absurd (active _ _ presents finds) inactive
    | granted | unknown | malformed => rfl

/-- The console looks a key up in the same list, and it ends well if the key that it finds is in
use. -/
theorem check_ending {s : Console.Surroundings} (records : ofRecords s.apiKeys = .ok v) (t : Text) :
    ((Console.check s t).ending = .ok 0 ↔ ∃ k, v.Finds t k ∧ k.status = activeStatus) ∧
      ((Console.check s t).ending = .ok 1 ↔ ¬ ∃ k, v.Finds t k ∧ k.status = activeStatus) := by
  unfold Console.check
  simp only [records]
  cases found : v.find? t with
  | none =>
      have nothing : ¬ ∃ k, v.Finds t k ∧ k.status = activeStatus := by
        rintro ⟨k, finds, -⟩
        rw [find?_eq_some.mpr finds] at found
        cases found
      exact ⟨iff_of_false (nofun) nothing, iff_of_true rfl nothing⟩
  | some k =>
      have finds := find?_eq_some.mp found
      by_cases active : k.status = activeStatus
      · have isActive : k.isActive = true := decide_eq_true active
        simp only [isActive, if_true]
        exact ⟨iff_of_true rfl ⟨k, finds, active⟩, iff_of_false nofun (not_not_intro ⟨k, finds, active⟩)⟩
      · have isActive : k.isActive = false := decide_eq_false active
        have nothing : ¬ ∃ k, v.Finds t k ∧ k.status = activeStatus := by
          rintro ⟨k', finds', active'⟩
          cases finds.unique finds'
          exact active active'
        simp only [isActive, Bool.false_eq_true, if_false]
        exact ⟨iff_of_false nofun nothing, iff_of_true rfl nothing⟩

/-- A request is granted exactly to the owner of the first stored key that its token verifies against,
and only while that key is in use. Every other request is denied. There is one record if the key that
was found is not in use, and none otherwise. For keys that were read from records, who is granted can
be told, and the console comes to the same verdict about every key that is a word. -/
theorem grants_exactly_active_keys (v : Validator) (authorization : Option Text) :
    (∀ u, (v.validate authorization).1 = .ok u ↔
      ∃ token k, Presents authorization token ∧ v.Finds token k ∧ k.status = "active" ∧
        u = ⟨k.userId, k.keyId⟩) ∧
    (∀ f, (v.validate authorization).1 = .error f → Denial f) ∧
    (∀ token k, Presents authorization token → v.Finds token k → k.status ≠ "active" →
      (v.validate authorization).2 = [rejectedRecord k]) ∧
    ((∀ token k, Presents authorization token → v.Finds token k → k.status = "active") →
      (v.validate authorization).2 = []) ∧
    ∀ s : Console.Surroundings, ofRecords s.apiKeys = .ok v →
      (∀ u, (v.validate authorization).1 = .ok u →
        ApiUser.ofMembers [("user_id", .text u.userId), ("key_id", .text u.keyId)] = .ok u) ∧
      ∀ t, Solid t →
        ((Console.check s t).ending = .ok 0 ↔
          ∃ u, (v.validate (some ("Bearer " ++ t))).1 = .ok u) ∧
        ((Console.check s t).ending = .ok 1 ↔
          ¬ ∃ u, (v.validate (some ("Bearer " ++ t))).1 = .ok u) := by
  have judged := v.validate_judged authorization
  have granted := judged.ok_iff
  refine ⟨granted, fun f => judged.denial, judged.records.1, judged.records.2, fun s records => ?_⟩
  refine ⟨fun u _ => ?_, fun t solid => ?_⟩
  · exact u.ofMembers_members
  · have shown := presents_bearer solid
    have same : (∃ u, (v.validate (some ("Bearer " ++ t))).1 = .ok u) ↔
        ∃ k, v.Finds t k ∧ k.status = activeStatus := by
      constructor
      · rintro ⟨u, ok⟩
        obtain ⟨token, k, presents, finds, active, -⟩ := ((v.validate_judged _).ok_iff u).mp ok
        cases shown.unique presents
        exact ⟨k, finds, active⟩
      · rintro ⟨k, finds, active⟩
        exact ⟨_, ((v.validate_judged _).ok_iff _).mpr ⟨t, k, shown, finds, active, rfl⟩⟩
    rw [same]
    exact check_ending records t

/-- A stored hash that is none, in front of the hash of a key. -/
def brokenHashFirst (hash : Text) : List ApiKey :=
  [⟨"key-1", "$2b$04$no-hash", "mallory", "active", none, none⟩,
    ⟨"key-2", hash, "ada", "active", none, none⟩]

theorem grants_exactly_active_keys_brokenHash :
    ∃ hash : Text,
      Presents (some "\tbEaReR  open-sesame ") "open-sesame" ∧
      Finds ⟨brokenHashFirst hash⟩ "open-sesame" ⟨"key-2", hash, "ada", "active", none, none⟩ ∧
      (validate ⟨brokenHashFirst hash⟩ (some "\tbEaReR  open-sesame ")).1 = .ok ⟨"ada", "key-2"⟩ ∧
      ∃ s : Console.Surroundings, ofRecords s.apiKeys = .ok ⟨brokenHashFirst hash⟩ ∧
        Solid "open-sesame" ∧ (Console.check s "open-sesame").ending = .ok 0 := by
  obtain ⟨hash, hashed⟩ := exists_hashKey "open-sesame" "$2b$04$......................"
    (isPrintable_ofString (by decide)) (by decide)
    (by decide +kernel)
  have solid : Solid "open-sesame" := by decide +kernel
  have presents : Presents (some "\tbEaReR  open-sesame ") "open-sesame" :=
    ⟨"\t", "bEaReR", "  ", " ", by decide +kernel, by decide +kernel, by decide +kernel,
      List.cons_ne_nil _ _, by decide +kernel, solid, by decide +kernel⟩
  have finds : Finds ⟨brokenHashFirst hash⟩ "open-sesame"
      ⟨"key-2", hash, "ada", "active", none, none⟩ :=
    ⟨[_], [], rfl, verifyKey_of_hashKey hashed, List.forall_mem_singleton.mpr (by decide +kernel)⟩
  have records :
      ofRecords ((brokenHashFirst hash).map ApiKey.members) = .ok ⟨brokenHashFirst hash⟩ :=
    ofRecords_members _
  have granted :
      ∃ u, (validate ⟨brokenHashFirst hash⟩ (some ("Bearer " ++ "open-sesame"))).1 = .ok u :=
    ⟨_, ((grants_exactly_active_keys _ _).1 _).mpr
      ⟨_, _, presents_bearer solid, finds, rfl, rfl⟩⟩
  refine ⟨hash, presents, finds, ((grants_exactly_active_keys _ _).1 _).mpr
    ⟨_, _, presents, finds, rfl, rfl⟩,
    ⟨[], [], [], ⟨2025, 1, 1, 0, 0, 0, 0⟩, (brokenHashFirst hash).map ApiKey.members⟩, records,
    solid, ?_⟩
  exact (((grants_exactly_active_keys _ none).2.2.2.2 _ records).2 _ solid).1.mpr granted

end Validator

end QueryGateway.Credential
