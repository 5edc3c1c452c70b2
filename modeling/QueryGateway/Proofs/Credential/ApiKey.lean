import Mathlib.Data.List.Forall2
import QueryGateway.Credential.Validator
import QueryGateway.Proofs.Form.Record

/-!
# Key records that are read

Every record is read from its own members, and the stored keys are the records as they are read. So
what was stored once can be stored again, and whoever is granted a request is a user that can be
told.
-/

namespace QueryGateway.Credential

open Text

namespace ApiKey

theorem optionalText_nullable (o : Option Text) : Form.optionalText (nullable o) = .ok o := by
  cases o <;> rfl

theorem ofMembers_members (k : ApiKey) : ofMembers k.members = .ok k := by
  have createdAt :
      Form.optional k.members ["created_at"] none Form.optionalText = .ok k.createdAt :=
    congrArg (Form.under _) (optionalText_nullable k.createdAt)
  have description :
      Form.optional k.members ["description"] none Form.optionalText = .ok k.description :=
    congrArg (Form.under _) (optionalText_nullable k.description)
  rw [ofMembers, createdAt, description]
  rfl

end ApiKey

theorem ApiUser.ofMembers_members (u : ApiUser) :
    ofMembers [("user_id", .text u.userId), ("key_id", .text u.keyId)] = .ok u := rfl

namespace Validator

/-- The stored keys are the records as they are read, in their order. -/
theorem ofRecords_eq_ok {records : List Members} {v : Validator} :
    ofRecords records = .ok v ↔
      List.Forall₂ (fun members k => ApiKey.ofMembers members = .ok k) records v.keys := by
  induction records generalizing v with
  | nil =>
      obtain ⟨keys⟩ := v
      constructor
      · rintro ⟨⟩
        exact .nil
      · rintro ⟨⟩
        rfl
  | cons members rest ih =>
      obtain ⟨keys⟩ := v
      constructor
      · intro h
        obtain ⟨k, read, h⟩ := Except.bind_ok h
        obtain ⟨w, others, h⟩ := Except.bind_ok h
        cases h
        exact .cons read (ih.mp others)
      · rintro (_ | @⟨_, k, _, keys, read, others⟩)
        have later : ofRecords rest = .ok ⟨keys⟩ := ih.mpr others
        rw [ofRecords, read, later]
        rfl

/-- Every list of keys can be stored. -/
theorem ofRecords_members (keys : List ApiKey) :
    ofRecords (keys.map ApiKey.members) = .ok ⟨keys⟩ := by
  rw [ofRecords_eq_ok]
  induction keys with
  | nil => exact .nil
  | cons k _ ih => exact .cons k.ofMembers_members ih

end Validator

end QueryGateway.Credential
