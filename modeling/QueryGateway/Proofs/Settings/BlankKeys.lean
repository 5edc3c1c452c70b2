import QueryGateway.Proofs.Json.Acceptance
import QueryGateway.Proofs.Settings.Sources

/-!
# A blank text for the stored keys

A blank text means that there are no stored keys, but only where it was given directly. There
`blank_keys_told` says that it counts as if nothing were said of the stored keys, over whatever the two
environments say: there are none, and every other setting is what it is without it.

In the two environments the stored keys are JSON before they are anything else, and a blank text is no
JSON. So there it is a failure, under any spelling of the name and whatever the other sources say: a
deployment whose operator empties the variable does not start (`blank_keys_refused`).
-/

namespace QueryGateway.Settings

theorem read?_of_blank {d : Json.Dialect} {t : Text} (blank : Text.isBlank t = true) :
    Json.read? d t = none := by
  refine Option.eq_none_iff_forall_ne_some.mpr fun v read => ?_
  exact nomatch blank.symm.trans (Json.read?_eq_some_iff.mp read).not_blank

theorem reads_blank {b : Text} (blank : Text.isBlank b = true) {keys : List Members} :
    Reads (some (.text b)) standard.apiKeys readApiKeys keys ↔
      Reads none standard.apiKeys readApiKeys keys := by
  rw [Reads, Option.elim_some, readApiKeys, if_pos blank]
  exact Iff.rfl

namespace Sources

/-- No source says anything of the stored keys. -/
structure Keyless (d : Sources) : Prop where
  inEnvironment : d.inEnvironment? apiKeysName = none
  inFile : d.inFile? apiKeysName = none
  given : d.given? apiKeysName = none

/-- The sources say the same of all settings but the stored keys. -/
def Agrees (d e : Sources) : Prop :=
  ∀ name ∈ names, name ≠ apiKeysName → d.value? name = e.value? name

variable {d e : Sources} {s : Settings}

theorem Keyless.value (h : d.Keyless) : d.value? apiKeysName = none :=
  value?_of_none h.given h.inEnvironment h.inFile

theorem Keyless.legible (h : d.Keyless) :
    Legible (d.inEnvironment? apiKeysName) ∧ Legible (d.inFile? apiKeysName) :=
  ⟨legible_of_none h.inEnvironment, legible_of_none h.inFile⟩

theorem Keyless.apiKeys_eq (h : d.Keyless) (valid : d.load = .ok s) : s.apiKeys = [] := by
  have keys := (load_eq_ok_iff.mp valid).2.2.apiKeys
  rw [h.value] at keys
  exact (Except.ok.inj keys).symm

/-- A blank text that was given is as good as nothing said, if the environments are legible. -/
theorem load_of_given_blank {b : Text} (blank : Text.isBlank b = true)
    (given : d.given? apiKeysName = some (.text b)) (keyless : e.Keyless) (agrees : d.Agrees e) :
    d.load = .ok s ↔
      Legible (d.inEnvironment? apiKeysName) ∧ Legible (d.inFile? apiKeysName) ∧ e.load = .ok s := by
  have keys : Reads (d.value? apiKeysName) standard.apiKeys readApiKeys s.apiKeys ↔
      Reads (e.value? apiKeysName) standard.apiKeys readApiKeys s.apiKeys := by
    rw [value?_of_given given, keyless.value]
    exact reads_blank blank
  have fits : Fits d.value? s ↔ Fits e.value? s :=
    ⟨fun h => h.congr agrees keys.mp,
      fun h => h.congr (fun name mem other => (agrees name mem other).symm) keys.mpr⟩
  obtain ⟨environment, file⟩ := keyless.legible
  rw [load_eq_ok_iff, load_eq_ok_iff, fits]
  exact ⟨fun ⟨h, h', h''⟩ => ⟨h, h', environment, file, h''⟩,
    fun ⟨h, h', _, _, h''⟩ => ⟨h, h', h''⟩⟩

section Giving
variable {front back : Members} {name : Text} {v : Value}

theorem given?_giving (keyless : d.Keyless) (given : d.given = front ++ back)
    (keys : name.lower = apiKeysName) :
    ({ d with given := front ++ (name, v) :: back } : Sources).given? apiKeysName = some v :=
  spelled?_insert_self (m := (name, v)) keys (given ▸ keyless.given)

/-- One more thing given, for the stored keys, leaves all else as it is. -/
theorem agrees_giving (given : d.given = front ++ back) (keys : name.lower = apiKeysName) :
    ({ d with given := front ++ (name, v) :: back } : Sources).Agrees d := by
  intro other _ different
  have same : spelled? (front ++ (name, v) :: back) other = d.given? other := by
    rw [given?, given]
    exact spelled?_insert front (keys ▸ Ne.symm different)
  rw [value?, given?, same]
  rfl

end Giving

/-- A blank text for the stored keys, by the source that has it. A variable or a binding with it fails
the deployment. Given directly, under any spelling and in any place, it changes nothing in a deployment
that is told of no keys. It also stands over every JSON that the environments have for the keys: the
settings are those of a deployment that agrees on all others and is told of no keys. -/
theorem blank_keys_told {b : Text} (blank : Text.isBlank b = true) :
    (∀ d : Sources, d.inEnvironment? apiKeysName = some b →
      d.load = .error (unreadable apiKeysName "EnvSettingsSource")) ∧
    (∀ d : Sources, Legible (d.inEnvironment? apiKeysName) → d.inFile? apiKeysName = some b →
      d.load = .error (unreadable apiKeysName "DotEnvSettingsSource")) ∧
    ∀ (e : Sources) (s : Settings), e.Keyless → e.load = .ok s →
      s.apiKeys = [] ∧
      (∀ front back name, e.given = front ++ back → Text.lower name = apiKeysName →
        ({ e with given := front ++ (name, .text b) :: back } : Sources).load = .ok s) ∧
      ∀ d : Sources, d.Agrees e → d.given? apiKeysName = some (.text b) →
        (d.load = .ok s ↔
          Legible (d.inEnvironment? apiKeysName) ∧ Legible (d.inFile? apiKeysName)) := by
  refine ⟨fun d held => load_of_environment held (read?_of_blank blank),
    fun d legible held => load_of_file legible held (read?_of_blank blank),
    fun e s keyless valid => ⟨keyless.apiKeys_eq valid, fun front back name given keys => ?_,
      fun d agrees given => ?_⟩⟩
  · have told := given?_giving (v := .text b) keyless given keys
    exact (load_of_given_blank blank told keyless (agrees_giving given keys)).mpr
      ⟨keyless.legible.1, keyless.legible.2, valid⟩
  · rw [load_of_given_blank blank given keyless agrees]
    exact ⟨fun h => ⟨h.1, h.2.1⟩, fun h => ⟨h.1, h.2, valid⟩⟩

/-- A deployment whose operator says something in each source, and nothing of the stored keys. -/
def keylessSources : Sources where
  environment := [("LOG_LEVEL", "DEBUG")]
  file := some "ENABLE_ACCESS_LOG=yes\n"
  given := [("api_title", .text "Rehearsal")]

theorem keylessSources_keyless : keylessSources.Keyless := by
  constructor <;> decide +kernel

theorem keylessSources_load : keylessSources.load = .ok
    { standard with logLevel := "DEBUG", apiTitle := "Rehearsal", enableAccessLog := true } := by
  have logLevel : keylessSources.value? "log_level" = some (.text "DEBUG") :=
    value?_of_environment (by decide +kernel) (by decide +kernel) rfl
  have accessLog : keylessSources.value? "enable_access_log" = some (.text "yes") :=
    value?_of_file (by decide +kernel) (by decide +kernel) (by decide +kernel) rfl
  obtain ⟨environment, file⟩ := keylessSources_keyless.legible
  exact load_eq_ok_iff.mpr ⟨environment, file,
    { logLevel := reads_some logLevel rfl
      apiTitle := reads_some (value?_of_given rfl) rfl
      apiVersion := reads_none (by decide +kernel)
      enableAccessLog := reads_some accessLog rfl
      enableCompression := reads_none (by decide +kernel)
      showFailureCause := reads_none (by decide +kernel)
      apiKeys := reads_none keylessSources_keyless.value }⟩

/-- The same with a list of keys in the environment and a blank text given over it. -/
def blankOverKeys : Sources where
  environment := [("LOG_LEVEL", "DEBUG"), ("API_KEYS", "[\x7b\x7d]")]
  file := keylessSources.file
  given := [("api_title", .text "Rehearsal"), ("api_keys", .text "\t ")]

theorem blankOverKeys_agrees : blankOverKeys.Agrees keylessSources := by
  intro name mem other
  have environment : blankOverKeys.inEnvironment? name = keylessSources.inEnvironment? name := by
    have keys : Text.lower "API_KEYS" = apiKeysName := by decide +kernel
    exact spelled?_insert [_] (keys ▸ Ne.symm other)
  have given : blankOverKeys.given? name = keylessSources.given? name := by
    have keys : Text.lower "api_keys" = apiKeysName := by decide +kernel
    exact spelled?_insert [_] (keys ▸ Ne.symm other)
  -- the file is read under the other environment, where its references could mean something else
  have file : ∀ name ∈ names, blankOverKeys.inFile? name = keylessSources.inFile? name := by
    decide +kernel
  rw [value?, value?, environment, file name mem, given]

theorem blankOverKeys_given : blankOverKeys.given? apiKeysName = some (.text "\t ") := by
  have keys : Text.lower "api_keys" = apiKeysName := by decide +kernel
  exact (spelled?_snoc [_] _).trans (if_pos keys)

theorem blankOverKeys_legible :
    Legible (blankOverKeys.inEnvironment? apiKeysName) ∧
      Legible (blankOverKeys.inFile? apiKeysName) := by
  have held : blankOverKeys.inEnvironment? apiKeysName = some "[\x7b\x7d]" := by decide +kernel
  refine ⟨fun t same => ?_, legible_of_none (by decide +kernel)⟩
  cases held.symm.trans same
  exact Option.isSome_iff_exists.mp (by decide +kernel)

/-- A tab and a space in each of the sources, and once more over a list of keys. -/
theorem blank_keys_told_keyless :
    let settings : Settings :=
      { standard with logLevel := "DEBUG", apiTitle := "Rehearsal", enableAccessLog := true }
    Text.isBlank "\t " = true ∧
    ({ keylessSources with
        environment := [("LOG_LEVEL", "DEBUG"), ("Api_Keys", "\t ")] } : Sources).load =
      .error (unreadable apiKeysName "EnvSettingsSource") ∧
    ({ keylessSources with
        file := some "ENABLE_ACCESS_LOG=yes\nAPI_KEYS='\t '\n" } : Sources).load =
      .error (unreadable apiKeysName "DotEnvSettingsSource") ∧
    keylessSources.load = .ok settings ∧
    ({ keylessSources with
        given := [("Api_Keys", .text "\t "), ("api_title", .text "Rehearsal")] } :
      Sources).load = .ok settings ∧
    blankOverKeys.load = .ok settings := by
  have blank : Text.isBlank "\t " = true := by decide
  obtain ⟨inEnvironment, inFile, given⟩ := blank_keys_told blank
  obtain ⟨-, alone, above⟩ := given keylessSources _ keylessSources_keyless keylessSources_load
  refine ⟨blank, inEnvironment _ ?_, inFile _ (legible_of_none ?_) ?_, keylessSources_load, ?_, ?_⟩
  · decide +kernel
  · decide +kernel
  · decide +kernel
  · exact alone [] _ "Api_Keys" rfl (by decide +kernel)
  · exact (above blankOverKeys blankOverKeys_agrees blankOverKeys_given).mpr blankOverKeys_legible

/-- An empty variable for the stored keys keeps a deployment from being started that would start
without it, and so does an empty binding. -/
theorem blank_keys_refused :
    Text.isBlank "" = true ∧ Settings.load [] none [] = .ok standard ∧
      Settings.load [("API_KEYS", "")] none [] =
        .error (unreadable apiKeysName "EnvSettingsSource") ∧
      Settings.load [] (some "API_KEYS=\n") [] =
        .error (unreadable apiKeysName "DotEnvSettingsSource") := by
  have blank : Text.isBlank "" = true := by decide
  refine ⟨blank, rfl, ?_, ?_⟩
  · exact load_of_environment (d := ⟨[("API_KEYS", "")], none, []⟩) (by decide +kernel)
      (read?_of_blank blank)
  · exact load_of_file (d := ⟨[], some "API_KEYS=\n", []⟩) (legible_of_none rfl) (by decide +kernel)
      (read?_of_blank blank)

end Sources

end QueryGateway.Settings
