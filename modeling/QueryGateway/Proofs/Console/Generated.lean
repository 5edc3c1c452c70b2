import QueryGateway.Proofs.Console.Arguments
import QueryGateway.Proofs.Credential.Grant
import QueryGateway.Proofs.Settings.StoredKeys

/-!
# A key from the console to the gateway

What becomes of a key that the console made, for all random bytes: its record is printed on one line,
the line is JSON that the settings take, the record is read back as it was made, and the validator
grants the key to its user. All of this holds without exception.

The last step does not: the console takes the key back from the command line only if it is not taken
for an option there. One key in sixty-four begins with a dash, and of those only a dash with digits
behind it gets through (`generated_key_is_usable`, `dashed_key_is_refused`).
-/

namespace QueryGateway.Console

open Text Credential

/-! ## Making a key -/

variable {s : Surroundings} {userId : Text} {description : Option Text}

theorem newRecord_eq {hash : Text} {record : ApiKey}
    (h : newRecord s userId description hash = .ok record) :
    record = ⟨s.freshId, hash, userId, activeStatus, some s.now.iso, description⟩ := by
  unfold newRecord at h
  dsimp only at h
  rw [ApiKey.ofMembers_members] at h
  exact (Except.ok.inj h).symm

/-- A key that was made has a hash, a record and a line to be stored. -/
theorem generate_ok (done : (generate s userId description).ending = .ok 0) :
    ∃ hash record json, hashKey (generateKey s.entropy) s.salt = .ok hash ∧
      newRecord s userId description hash = .ok record ∧ record.json = .ok json ∧
      generate s userId description = .done (newKeyLines (generateKey s.entropy) record json) 0 := by
  unfold generate at done
  dsimp only at done
  split at done
  · cases done
  rename_i hash hashed
  split at done
  · cases done
  rename_i record made
  split at done
  · cases done
  rename_i json written
  refine ⟨hash, record, json, hashed, made, written, ?_⟩
  rw [generate, hashed]
  simp only [made, written]

/-- A key is made for every user and description, as long as the salt can be read. -/
theorem generate_ending (random : s.entropy.length = keyEntropy)
    (salt : (Salt.read? s.salt).isSome = true) (freshId : s.freshId.IsScalar)
    (user : userId.IsScalar) (known : ∀ d, description = some d → d.IsScalar) :
    (generate s userId description).ending = .ok 0 := by
  obtain ⟨hash, hashed⟩ := (hashable_generateKey random).exists_hashKey salt
  have made : newRecord s userId description hash =
      .ok ⟨s.freshId, hash, userId, activeStatus, some s.now.iso, description⟩ := by
    unfold newRecord
    dsimp only
    rw [ApiKey.ofMembers_members]
  have plain : ∀ m ∈ ApiKey.members
      ⟨s.freshId, hash, userId, activeStatus, some s.now.iso, description⟩, Json.Plain m.2 := by
    simp only [ApiKey.members, List.forall_mem_cons]
    exact ⟨.text freshId, .text (isPrintable_of_hashKey hashed).isScalar, .text user,
      .text (isScalar_ofString _), .text (isPrintable_iso _).isScalar, ApiKey.plain_nullable known,
      List.forall_mem_nil _⟩
  obtain ⟨json, written⟩ := ApiKey.exists_json plain
  rw [generate, hashed]
  simp only [made, written]
  rfl

/-- A command line that made a key did nothing else. -/
theorem run_generate (done : (run s (generateArguments userId description)).ending = .ok 0) :
    run s (generateArguments userId description) = generate s userId description := by
  rcases ofArguments_generate userId description with asked | ⟨lines, misused⟩
  · rw [run, asked]
    rfl
  · rw [run, misused] at done
    cases done

theorem keyLike_generateKey {entropy : Bytes} (random : entropy.length = keyEntropy) :
    KeyLike (generateKey entropy) where
  plain := mem_generateKey (by decide +kernel)
  long := by
    rw [length_generateKey random]
    decide

/-! ## Checking a key -/

/-- The stored keys hold this one, and no other that the token verifies against. -/
def Holds (v : Validator) (token : Text) (record : ApiKey) : Prop :=
  ∃ before after, v.keys = before ++ record :: after ∧
    ∀ k ∈ before ++ after, verifyKey token k.keyHash = false

theorem Holds.finds {v : Validator} {token : Text} {record : ApiKey} (h : Holds v token record)
    (verified : verifyKey token record.keyHash = true) : v.Finds token record := by
  obtain ⟨before, after, keys, others⟩ := h
  exact ⟨before, after, keys, verified, fun k mem => others k (List.mem_append_left after mem)⟩

/-- What is told about a key that was found. -/
def foundLines (k : ApiKey) : List Text :=
  [("Key ID: " : Text) ++ k.keyId, ("User: " : Text) ++ k.userId, ("Status: " : Text) ++ k.status]

theorem check_of_finds {v : Validator} {key : Text} {k : ApiKey}
    (records : Validator.ofRecords s.apiKeys = .ok v) (finds : v.Finds key k)
    (active : k.status = activeStatus) : check s key = .done (foundLines k) 0 := by
  have isActive : k.isActive = true := decide_eq_true active
  rw [check, records]
  simp only [Validator.find?_eq_some.mpr finds, isActive, if_true]
  rfl

/-- Reading that ended at the option for help told nothing about a key. -/
theorem run_of_atHelp {args : List Text} {stop : Stop} (stopped : Request.ofArguments args = .error stop)
    (atHelp : stop.AtHelp checkGrammar) (k : ApiKey) : run s args ≠ .done (foundLines k) 0 := by
  intro same
  have printed := congrArg Outcome.printed same
  rw [run, stopped] at printed
  rcases atHelp with rfl | ⟨lines, rfl⟩
  · cases List.head_eq_of_cons_eq printed
  · cases printed

/-! ## The whole way -/

/-- A key that the console made: its record is printed on the last line as JSON, and it is read from
there as it was made, alone or among other records in the settings. Where the stored keys hold this
record, and no other that the key verifies against, the validator grants the key to its user. The
console finds it as well, if and only if the key is taken for an operand. -/
theorem generated_key_is_usable (s : Surroundings) (userId : Text) (description : Option Text)
    (random : s.entropy.length = keyEntropy)
    (done : (run s (generateArguments userId description)).ending = .ok 0) :
    ∃ hash record json,
      hashKey (generateKey s.entropy) s.salt = .ok hash ∧
      newRecord s userId description hash = .ok record ∧
      run s (generateArguments userId description) =
        .done (newKeyLines (generateKey s.entropy) record json) 0 ∧
      CodePoint.ofChar '\n' ∉ json ∧
      (∀ d : Json.Dialect, Json.within d.maxDepth 1 = true →
        Json.read? d json = some (Value.object record.members)) ∧
      ApiKey.ofMembers record.members = .ok record ∧
      (∀ before after lines lines',
        List.Forall₂ (fun (k : ApiKey) t => k.json = .ok t) before lines →
        List.Forall₂ (fun (k : ApiKey) t => k.json = .ok t) after lines' →
        Settings.load [("API_KEYS", Json.brackets .envelope (lines ++ json :: lines'))] none [] =
          .ok { Settings.standard with
            apiKeys := (before ++ record :: after).map ApiKey.members }) ∧
      ∀ (s' : Surroundings) (v : Validator), Validator.ofRecords s'.apiKeys = .ok v →
        Holds v (generateKey s.entropy) record →
          (v.validate (some ("Bearer " ++ generateKey s.entropy))).1 =
            .ok ⟨userId, record.keyId⟩ ∧
          (run s' ["check", generateKey s.entropy] = .done (foundLines record) 0 ↔
            IsOperand (generateKey s.entropy)) := by
  have same := run_generate done
  rw [same] at done ⊢
  obtain ⟨hash, record, json, hashed, made, written, printed⟩ := generate_ok done
  have fields := newRecord_eq made
  refine ⟨hash, record, json, hashed, made, printed, ?_, fun d => ApiKey.read?_json written,
    record.ofMembers_members, fun before after lines lines' front back => ?_,
    fun s' v records holds => ?_⟩
  · intro mem
    have visible := (ApiKey.json_val written Json.Dialect.setting 0).2 _ mem
    exact absurd visible (by decide)
  · exact Settings.load_stored (List.rel_append front (.cons written back))
  · have finds := holds.finds (fields ▸ verifyKey_of_hashKey hashed)
    have active : record.status = activeStatus := congrArg ApiKey.status fields
    refine ⟨(v.validate_judged _).ok_iff _ |>.mpr ⟨_, record, presents_bearer (solid_generateKey random),
      finds, active, fields ▸ rfl⟩, ?_⟩
    rcases ofArguments_check (keyLike_generateKey random) with ⟨operand, asked⟩ |
      ⟨noOperand, stop, stopped, atHelp⟩
    · refine iff_of_true ?_ operand
      rw [run, asked]
      exact check_of_finds records finds active
    · exact iff_of_false (run_of_atHelp stopped atHelp record) noOperand

/-- The console at a fixed point in time, with random bytes of which all but the first are zero. -/
def generatingConsole (first : UInt8) (apiKeys : List Members) : Surroundings where
  entropy := first :: List.replicate 47 0
  salt := "$2b$04$......................"
  freshId := "00000000-0000-4000-8000-000000000000"
  now := ⟨2025, 1, 1, 0, 0, 0, 0⟩
  apiKeys := apiKeys

theorem generatingConsole_generates (first : UInt8) :
    (run (generatingConsole first []) (generateArguments "ada" none)).ending = .ok 0 := by
  have asked : Request.ofArguments (generateArguments "ada" none) = .ok (.generate "ada" none) := rfl
  have salt : (Salt.read? "$2b$04$......................").isSome = true := by decide +kernel
  rw [run, asked]
  exact generate_ending rfl salt (isScalar_ofString _) (isScalar_ofString _) nofun

theorem stored_alone (record : ApiKey) (token : Text) :
    Validator.ofRecords [record.members] = .ok ⟨[record]⟩ ∧ Holds ⟨[record]⟩ token record :=
  ⟨Validator.ofRecords_members [record], [], [], rfl, List.forall_mem_nil _⟩

theorem generated_key_is_usable_undashed :
    ∃ record : ApiKey,
      (generatingConsole 0 []).entropy.length = keyEntropy ∧
      (run (generatingConsole 0 []) (generateArguments "ada" none)).ending = .ok 0 ∧
      (Validator.validate ⟨[record]⟩
          (some ("Bearer " ++ generateKey (generatingConsole 0 []).entropy))).1 =
        .ok ⟨"ada", record.keyId⟩ ∧
      run (generatingConsole 0 [record.members])
          ["check", generateKey (generatingConsole 0 []).entropy] =
        .done (foundLines record) 0 := by
  obtain ⟨hash, record, json, -, -, -, -, -, -, -, usable⟩ :=
    generated_key_is_usable (generatingConsole 0 []) "ada" none rfl (generatingConsole_generates 0)
  obtain ⟨records, holds⟩ := stored_alone record (generateKey (generatingConsole 0 []).entropy)
  obtain ⟨granted, checked⟩ := usable (generatingConsole 0 [record.members]) _ records holds
  exact ⟨record, rfl, generatingConsole_generates 0, granted, checked.mpr fun dash => nomatch dash⟩

/-- A key that begins with a dash is made and stored, but the console refuses to check it. -/
theorem dashed_key_is_refused :
    ∃ (record : ApiKey) (json : Text),
      run (generatingConsole 0xF8 []) (generateArguments "ada" none) =
        .done (newKeyLines (generateKey (generatingConsole 0xF8 []).entropy) record json) 0 ∧
      Validator.ofRecords [record.members] = .ok ⟨[record]⟩ ∧
      Holds ⟨[record]⟩ (generateKey (generatingConsole 0xF8 []).entropy) record ∧
      (run (generatingConsole 0xF8 [record.members])
        ["check", generateKey (generatingConsole 0xF8 []).entropy]).ending = .ok 2 := by
  have done := generatingConsole_generates 0xF8
  have same := run_generate done
  rw [same] at done
  obtain ⟨hash, record, json, -, -, -, printed⟩ := generate_ok done
  obtain ⟨records, holds⟩ := stored_alone record (generateKey (generatingConsole 0xF8 []).entropy)
  refine ⟨record, json, same.trans printed, records, holds, ?_⟩
  obtain ⟨lines, misused⟩ : ∃ lines,
      Request.ofArguments ["check", generateKey (generatingConsole 0xF8 []).entropy] =
        .error (.misuse lines) := ⟨_, rfl⟩
  rw [run, misused]

end QueryGateway.Console
