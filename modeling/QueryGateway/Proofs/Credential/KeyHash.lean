import QueryGateway.Credential.KeyHash
import QueryGateway.Proofs.Except
import QueryGateway.Proofs.Failure.Encoding
import QueryGateway.Proofs.Text.Transport
import QueryGateway.Proofs.Text.Words

/-!
# A key and its stored hash

A key is verified by hashing it again with the salt that stands in its stored hash. So a key
verifies against what was stored of it (`verifyKey_of_hashKey`) because the salt that was written is
the salt that is read (`Salt.read?_write`), whatever stands behind it. And it verifies against
nothing else: `verifyKey_iff` says what the stored texts of a key are, without reading any.

Verifying may fail at several steps. The one rule that turns failures into a mismatch leaves none of
them: `verification` always comes to the verdict (`verification_ok`).

Nothing here depends on what the digest is: it is only ever compared with itself. That another key
does not verify is no theorem but the purpose of the cipher.
-/

namespace QueryGateway.Credential

open Text

/-! ## Salts -/

/-- The digits of salts and digests are told apart. -/
theorem faithful_hashAlphabet : hashAlphabet.Faithful := by
  decide +kernel

theorem isPrintable_encode (bytes : Bytes) : (Base64.encode hashAlphabet bytes).IsPrintable :=
  Base64.forall_mem_encode (by decide +kernel) bytes

theorem exactBytes?_encode (bytes : Bytes) :
    exactBytes? (Base64.encode hashAlphabet bytes) = some bytes := by
  rw [exactBytes?, Base64.mapM_digit?_encode faithful_hashAlphabet]
  show (if _ then some (Base64.undigits (Base64.digits bytes)) else none) = _
  rw [Base64.undigits_digits, if_pos rfl]

theorem costOf?_padded {cost : Nat} (small : cost < 32) : costOf? (padded 2 cost) = some cost := by
  have digits := padded_isDigits 2 cost
  have value := digitsValue_padded 2 cost
  obtain ⟨c, rest, split⟩ := List.exists_cons_of_ne_nil (padded_ne_nil 2 cost)
  rw [split] at digits value ⊢
  have plain : c ≠ CodePoint.ofChar '+' := by
    rintro rfl
    exact absurd (digits _ List.mem_cons_self) (by decide)
  have room : cost < Number.twoPow 32 := Nat.lt_of_lt_of_le small (by decide)
  unfold costOf?
  simp only [plain, if_false, value]
  rw [if_pos ⟨List.cons_ne_nil c rest, List.all_eq_true.mpr digits, room⟩]

/-- What is known of a salt that could be read. -/
structure Salt.Sound (s : Salt) : Prop where
  version : s.version ∈ versions
  cost : 4 ≤ s.cost ∧ s.cost ≤ 31
  bytes : s.bytes.length = 16

theorem Salt.sound_of_read? {t : Text} {s : Salt} (h : Salt.read? t = some s) : s.Sound := by
  unfold Salt.read? at h
  split at h
  · cases h
  split at h
  case isFalse => cases h
  split at h
  case h_2 => cases h
  split at h
  case h_2 => cases h
  obtain ⟨cost, -, h⟩ := Option.bind_eq_some_iff.mp h
  obtain ⟨bytes, -, h⟩ := Option.bind_eq_some_iff.mp h
  split at h
  case isFalse => cases h
  rename_i sound
  cases h
  exact ⟨sound.1, ⟨sound.2.1, sound.2.2.1⟩, sound.2.2.2⟩

/-- The salt that was written is read, whatever stands behind it. -/
theorem Salt.read?_write {s : Salt} (sound : s.Sound) (rest : Text) :
    Salt.read? (s.write ++ rest) = some s := by
  have noDollar : CodePoint.ofChar '$' ∉ s.version := by
    have all : ∀ v ∈ versions, CodePoint.ofChar '$' ∉ v := by decide
    exact all s.version sound.version
  have noDollar' : CodePoint.ofChar '$' ∉ padded 2 s.cost := fun mem =>
    absurd (padded_isDigits 2 s.cost _ mem) (by decide)
  have letters : (Base64.encode hashAlphabet s.bytes).length = saltLetters := by
    rw [Base64.length_encode, sound.bytes]
    rfl
  have form : s.write ++ rest = CodePoint.ofChar '$' :: (s.version ++ CodePoint.ofChar '$' ::
      (padded 2 s.cost ++ CodePoint.ofChar '$' ::
        (Base64.encode hashAlphabet s.bytes ++ rest))) := by
    simp only [Salt.write, List.append_assoc]
    rfl
  have cost : s.cost < 32 := Nat.lt_succ_of_le sound.cost.2
  rw [form, Salt.read?]
  simp only [if_true, cut_append noDollar, cut_append noDollar', costOf?_padded cost,
    List.take_left' letters, exactBytes?_encode]
  exact if_pos ⟨sound.version, sound.cost.1, sound.cost.2, sound.bytes⟩

theorem Salt.isPrintable_write {s : Salt} (sound : s.Sound) : s.write.IsPrintable := by
  have version : s.version.IsPrintable := by
    have all : ∀ v ∈ versions, v.all CodePoint.isPrintableAscii = true := by decide
    exact List.all_eq_true.mp (all s.version sound.version)
  have dollar : IsPrintable (ofString "$") := isPrintable_ofString rfl
  exact ((((dollar.append version).append dollar).append (isPrintable_padded 2 s.cost)).append
    dollar).append (isPrintable_encode s.bytes)

/-! ## Hashes -/

/-- A key that is hashed: Unicode text, and not too many bytes of it. -/
structure Hashable (key : Text) : Prop where
  unicode : key.IsScalar
  short : (Utf8.encode key).length ≤ maxKeyBytes

/-- What is stored of a key under a salt: the salt, and the digest of the key behind it. -/
def Salt.stored (s : Salt) (key : Text) : Text :=
  s.write ++ Base64.encode hashAlphabet (Blowfish.digest s.cost s.bytes (Utf8.encode key))

theorem Salt.isPrintable_stored {s : Salt} (sound : s.Sound) (key : Text) :
    (s.stored key).IsPrintable :=
  (Salt.isPrintable_write sound).append (isPrintable_encode _)

section Hash
variable {key salt hash stored : Text}

theorem hashKey_unencodable (h : ¬ key.IsScalar) : hashKey key salt = .error .keyNotUnicode := by
  rw [hashKey, Utf8.encode?_eq_none h]

theorem hashKey_long (unicode : key.IsScalar) (long : maxKeyBytes < (Utf8.encode key).length) :
    hashKey key salt = .error .keyTooLong := by
  rw [hashKey, Utf8.encode?_eq_some unicode]
  exact if_pos long

theorem Hashable.hashKey_eq (h : Hashable key) (salt : Text) :
    hashKey key salt =
      match Salt.read? salt with
      | none => .error .badSalt
      | some s => .ok (s.stored key) := by
  rw [hashKey, Utf8.encode?_eq_some h.unicode]
  exact if_neg (Nat.not_lt.mpr h.short)

/-- A key that is not hashed is refused for what it is itself, whatever the salt. -/
theorem refused_of_not_hashable (h : ¬ Hashable key) (salt : Text) :
    hashKey key salt = .error .keyNotUnicode ∨ hashKey key salt = .error .keyTooLong := by
  by_cases unicode : key.IsScalar
  · refine .inr (hashKey_long unicode (Nat.lt_of_not_le ?_))
    intro short
    exact h ⟨unicode, short⟩
  · exact .inl (hashKey_unencodable unicode)

theorem refused_iff :
    (hashKey key salt = .error .keyNotUnicode ∨ hashKey key salt = .error .keyTooLong) ↔
      ¬ Hashable key := by
  refine ⟨?_, fun h => refused_of_not_hashable h salt⟩
  intro refused hashable
  rw [hashable.hashKey_eq] at refused
  split at refused <;> rcases refused with ⟨⟨⟩⟩ | ⟨⟨⟩⟩

theorem hashKey_eq_ok :
    hashKey key salt = .ok hash ↔
      Hashable key ∧ ∃ s, Salt.read? salt = some s ∧ hash = s.stored key := by
  by_cases hashable : Hashable key
  · rw [hashable.hashKey_eq]
    cases Salt.read? salt with
    | none => simp only [reduceCtorEq, false_and, exists_false, and_false]
    | some s =>
        simp only [Except.ok.injEq, hashable, Option.some.injEq, true_and, exists_eq_left', eq_comm]
  · rcases refused_of_not_hashable hashable salt with refused | refused <;>
      simp only [refused, reduceCtorEq, hashable, false_and]

/-- A key that can be hashed is hashed with every salt. -/
theorem Hashable.hashKey_write (h : Hashable key) {s : Salt} (sound : s.Sound) :
    hashKey key s.write = .ok (s.stored key) := by
  have read := Salt.read?_write sound []
  rw [List.append_nil] at read
  exact hashKey_eq_ok.mpr ⟨h, s, read, rfl⟩

theorem isPrintable_of_hashKey (h : hashKey key salt = .ok hash) : hash.IsPrintable := by
  obtain ⟨-, s, read, rfl⟩ := hashKey_eq_ok.mp h
  exact Salt.isPrintable_stored (Salt.sound_of_read? read) key

end Hash

theorem length_encode_of_isPrintable {t : Text} (h : t.IsPrintable) :
    (Utf8.encode t).length = t.length := by
  induction t with
  | nil => rfl
  | cons c t ih =>
      obtain ⟨printable, later⟩ := List.forall_mem_cons.mp h
      simp only [CodePoint.isPrintableAscii, Bool.and_eq_true, decide_eq_true_eq] at printable
      have small : c.val < 0x80 := by omega
      have one : Utf8.encodePoint c = [UInt8.ofNat c.val] := if_pos small
      have rest : (Utf8.encode t).length = t.length := ih later
      rw [Utf8.encode, List.flatMap_cons, one, List.singleton_append, List.length_cons,
        List.length_cons, ← rest, Utf8.encode]

theorem hashable_of_isPrintable {key : Text} (printable : key.IsPrintable)
    (short : key.length ≤ maxKeyBytes) : Hashable key where
  unicode := printable.isScalar
  short := by rwa [length_encode_of_isPrintable printable]

theorem Hashable.exists_hashKey {key salt : Text} (h : Hashable key)
    (readable : (Salt.read? salt).isSome = true) : ∃ hash, hashKey key salt = .ok hash := by
  obtain ⟨s, read⟩ := Option.isSome_iff_exists.mp readable
  exact ⟨s.stored key, hashKey_eq_ok.mpr ⟨h, s, read, rfl⟩⟩

/-- A key of printable characters that is not too long is hashed with every salt that is read. -/
theorem exists_hashKey (key salt : Text) (printable : key.IsPrintable)
    (short : key.length ≤ maxKeyBytes) (readable : (Salt.read? salt).isSome = true) :
    ∃ hash, hashKey key salt = .ok hash :=
  (hashable_of_isPrintable printable short).exists_hashKey readable

/-! ## Verification -/

section Verification
variable {key salt hash stored : Text}

/-- Every fault is one of a wrong value. -/
theorem mismatchIfRefused_failure (fault : HashFault) :
    mismatchIfRefused (.error fault.failure) = .ok false := by
  cases fault <;> rfl

/-- Hashing with what is stored writes it again exactly if it can be stored of the key. -/
theorem hashKey_self_iff :
    hashKey key stored = .ok stored ↔
      Hashable key ∧ ∃ s, Salt.Sound s ∧ stored = s.stored key := by
  rw [hashKey_eq_ok]
  refine and_congr_right fun hashable => exists_congr fun s => ?_
  constructor
  · rintro ⟨read, rfl⟩
    exact ⟨Salt.sound_of_read? read, rfl⟩
  · rintro ⟨sound, rfl⟩
    exact ⟨Salt.read?_write sound _, rfl⟩

/-- The comparison of bytes is that of texts, and no failure is left. -/
theorem verification_ok (key stored : Text) :
    ∃ same, verification key stored = .ok same ∧
      (same = true ↔ hashKey key stored = .ok stored) := by
  rw [verification, compareKey]
  by_cases unicode : key.IsScalar
  case neg =>
    obtain ⟨position, c, length, unencodable⟩ := Utf8.encodeStrictly_of_not_isScalar unicode
    rw [unencodable, hashKey_unencodable unicode]
    exact ⟨false, rfl, by simp⟩
  rw [Utf8.encodeStrictly_of_isScalar unicode, Except.ok_bind]
  cases hashed : hashKey key stored with
  | error fault =>
      refine ⟨false, ?_, by simp⟩
      by_cases unicode' : stored.IsScalar
      · rw [Utf8.encodeStrictly_of_isScalar unicode']
        exact mismatchIfRefused_failure fault
      · obtain ⟨position, c, length, unencodable⟩ := Utf8.encodeStrictly_of_not_isScalar unicode'
        rw [unencodable]
        rfl
  | ok hash =>
      have printable := isPrintable_of_hashKey hashed
      by_cases unicode' : stored.IsScalar
      · rw [Utf8.encodeStrictly_of_isScalar unicode']
        refine ⟨decide (Utf8.encode hash = Utf8.encode stored), rfl, ?_⟩
        rw [decide_eq_true_eq, Utf8.encode_inj printable.isScalar unicode', Except.ok.injEq]
      · obtain ⟨position, c, length, unencodable⟩ := Utf8.encodeStrictly_of_not_isScalar unicode'
        rw [unencodable]
        refine ⟨false, rfl, iff_of_false Bool.false_ne_true fun same => ?_⟩
        exact unicode' (Except.ok.inj same ▸ printable.isScalar)

theorem verification_eq (key stored : Text) :
    verification key stored = .ok (verifyKey key stored) := by
  obtain ⟨same, verified, -⟩ := verification_ok key stored
  rw [verifyKey, verified]
  rfl

/-- A key verifies exactly against the texts that can be stored of it. -/
theorem verifyKey_iff :
    verifyKey key stored = true ↔ Hashable key ∧ ∃ s, Salt.Sound s ∧ stored = s.stored key := by
  obtain ⟨same, verified, iff⟩ := verification_ok key stored
  rw [← hashKey_self_iff, ← iff, verifyKey, verified]
  rfl

/-- A key verifies against what was stored of it. -/
theorem verifyKey_of_hashKey (h : hashKey key salt = .ok hash) : verifyKey key hash = true := by
  obtain ⟨hashable, s, read, stored⟩ := hashKey_eq_ok.mp h
  exact verifyKey_iff.mpr ⟨hashable, s, Salt.sound_of_read? read, stored⟩

end Verification

/-- A key verifies against what was hashed of it, with every salt, and a key that hashing refuses
for what it is itself (it has no bytes, or too many) verifies against nothing. Verifying comes to a
verdict on every key and every stored text: it matches if the text is one that can be stored of the
key, of a known version, a cost within bounds and a whole salt, and otherwise it does not. -/
theorem verification_agrees (key : Text) :
    (∀ salt hash, hashKey key salt = .ok hash → verification key hash = .ok true) ∧
    (∀ s : Salt, s.Sound → ((∃ hash, hashKey key s.write = .ok hash) ↔ Hashable key)) ∧
    (∀ salt, (hashKey key salt = .error .keyNotUnicode ∨ hashKey key salt = .error .keyTooLong) ↔
      ¬ Hashable key) ∧
    (¬ Hashable key → ∀ stored, verification key stored = .ok false) ∧
    ∀ stored, verification key stored = .ok (verifyKey key stored) ∧
      (verifyKey key stored = true ↔
        Hashable key ∧ ∃ s, Salt.Sound s ∧ stored = s.stored key) := by
  refine ⟨?_, ?_, fun salt => refused_iff, ?_,
    fun stored => ⟨verification_eq key stored, verifyKey_iff⟩⟩
  · intro salt hash hashed
    rw [verification_eq, verifyKey_of_hashKey hashed]
  · intro s sound
    constructor
    · rintro ⟨hash, hashed⟩
      exact (hashKey_eq_ok.mp hashed).1
    · intro hashable
      exact ⟨s.stored key, hashable.hashKey_write sound⟩
  · intro refused stored
    have unverified : verifyKey key stored ≠ true := fun verified =>
      refused (verifyKey_iff.mp verified).1
    rw [verification_eq, Bool.not_eq_true _ |>.mp unverified]

/-- A salt of zeros at the least cost. -/
def plainSalt : Salt := ⟨"2b", 4, List.replicate 16 0⟩

/-- So many times a letter of two bytes. -/
def accented (letters : Nat) : Text := List.replicate letters (CodePoint.ofChar 'é')

theorem verification_agrees_accented :
    ∃ hash, hashKey (accented 36) plainSalt.write = .ok hash ∧
      verification (accented 36) hash = .ok true ∧
      ¬ Hashable (accented 37) ∧ verification (accented 37) hash = .ok false ∧
      ¬ Hashable [0xD800] ∧ verification [0xD800] hash = .ok false ∧
      verification (accented 36) "$2b$04$é" = .ok false := by
  have sound : plainSalt.Sound := ⟨by decide +kernel, by decide, by decide⟩
  have hashable : Hashable (accented 36) := ⟨by decide +kernel, by decide +kernel⟩
  have long : ¬ Hashable (accented 37) := fun h => absurd h.short (by decide +kernel)
  have lone : ¬ Hashable [0xD800] := fun h => absurd h.unicode (by decide)
  obtain ⟨hash, hashed⟩ := ((verification_agrees (accented 36)).2.1 plainSalt sound).mpr hashable
  have corrupt : verifyKey (accented 36) "$2b$04$é" = false := by decide +kernel
  refine ⟨hash, hashed, (verification_agrees (accented 36)).1 _ _ hashed,
    long, (verification_agrees (accented 37)).2.2.2.1 long hash,
    lone, (verification_agrees [0xD800]).2.2.2.1 lone hash, ?_⟩
  rw [((verification_agrees (accented 36)).2.2.2.2 _).1, corrupt]

end QueryGateway.Credential
