import Mathlib.Data.List.Induction
import QueryGateway.Proofs.Except
import QueryGateway.Proofs.Form.Record
import QueryGateway.Settings.Load

/-!
# What the sources of settings say

The settings of a deployment come from three sources: what was given directly, the variables of its
environment, and the bindings of its environment file. Here is said without any table that is filled
on the way what each of them says of a setting (`given?`, `inEnvironment?`, `inFile?`), and which of them
is believed (`value?`). `load_eq_ok_iff` says that loading comes down to this: a deployment has
settings if and only if every field fits what is said of it and, whatever source decides, what the two
environments have for the stored keys is JSON.

The second condition is no part of the first. A text that is no JSON fails the deployment before any
field is read, also where another source would have decided (`load_of_environment`, `load_of_file`).
-/

namespace QueryGateway.Settings

/-! ## Names in any case -/

section Entries
variable {α : Type} {table : List (Text × α)} {name : Text}

/-- What a table has under a name, in whatever case that is written. The last entry counts. -/
def spelled? (table : List (Text × α)) (name : Text) : Option α :=
  (table.reverse.find? fun m => m.1.lower = name).map (·.2)

theorem spelled?_snoc (table : List (Text × α)) (m : Text × α) :
    spelled? (table ++ [m]) name = if m.1.lower = name then some m.2 else spelled? table name := by
  by_cases same : m.1.lower = name <;> simp [spelled?, same]

theorem spelled?_map {β : Type} (f : α → β) :
    spelled? (table.map fun m => (m.1, f m.2)) name = (spelled? table name).map f := by
  induction table using List.reverseRecOn with
  | nil => rfl
  | append_singleton front m ih =>
      rw [List.map_append, List.map_singleton, spelled?_snoc, spelled?_snoc, ih]
      split <;> rfl

/-- A name that the table does not have otherwise may be entered anywhere. -/
theorem spelled?_insert_self {front back : List (Text × α)} {m : Text × α} (same : m.1.lower = name)
    (missing : spelled? (front ++ back) name = none) :
    spelled? (front ++ m :: back) name = some m.2 := by
  induction back using List.reverseRecOn with
  | nil => rw [spelled?_snoc, if_pos same]
  | append_singleton back last ih =>
      rw [← List.append_assoc, spelled?_snoc] at missing
      rw [← List.cons_append, ← List.append_assoc, spelled?_snoc]
      split at missing
      · cases missing
      · rename_i other
        rw [if_neg other]
        exact ih missing

/-- An entry of another name may stand anywhere. -/
theorem spelled?_insert (front : List (Text × α)) {back : List (Text × α)} {m : Text × α}
    (other : m.1.lower ≠ name) :
    spelled? (front ++ m :: back) name = spelled? (front ++ back) name := by
  induction back using List.reverseRecOn with
  | nil => rw [spelled?_snoc, if_neg other, List.append_nil]
  | append_singleton back last ih =>
      rw [← List.cons_append, ← List.append_assoc, ← List.append_assoc, spelled?_snoc, spelled?_snoc, ih]

end Entries

/-! ## What was given -/

theorem fromGiven_snoc (given : Members) (m : Text × Value) :
    fromGiven (given ++ [m]) = (fromGiven given).put m.1.lower m.2 := List.foldl_append

theorem distinct_fromGiven (given : Members) : (fromGiven given).Distinct := by
  induction given using List.reverseRecOn with
  | nil => exact List.nodup_nil
  | append_singleton front m ih =>
      rw [fromGiven_snoc]
      exact Members.distinct_put ih

theorem get?_fromGiven (given : Members) (name : Text) :
    (fromGiven given).get? name = spelled? given name := by
  induction given using List.reverseRecOn with
  | nil => rfl
  | append_singleton front m ih => rw [fromGiven_snoc, Members.get?_put, spelled?_snoc, ih]

/-! ## What an environment holds -/

section Bindings
variable {bs : EnvFile.Bindings} {name : Text}

/-- The text that is bound to a name. -/
def bound? (bs : EnvFile.Bindings) (name : Text) : Option Text :=
  (bs.find? fun b => b.1 = name).bind (·.2)

theorem bound?_cons (b : Text × Option Text) :
    bound? (b :: bs) name = if b.1 = name then b.2 else bound? bs name := by
  by_cases same : b.1 = name <;> simp [bound?, same]

theorem bound?_bind {other : Text} {v : Option Text} :
    bound? (EnvFile.bind bs name v) other = if name = other then v else bound? bs other := by
  induction bs with
  | nil => exact bound?_cons (name, v)
  | cons b rest ih =>
      rw [EnvFile.bind, bound?_cons]
      split <;> grind [bound?_cons]

theorem bound?_foldNames (e : EnvFile.Bindings) (name : Text) :
    bound? (foldNames e) name = (spelled? e name).join := by
  induction e using List.reverseRecOn with
  | nil => rfl
  | append_singleton front b ih =>
      have last : foldNames (front ++ [b]) = EnvFile.bind (foldNames front) b.1.lower b.2 :=
        List.foldl_append
      rw [last, bound?_bind, spelled?_snoc, ih]
      split <;> rfl

end Bindings

/-- What a text of an environment says of a setting. For the stored keys it is JSON, and null says
nothing. -/
def meant? (name t : Text) : Option Value :=
  if name = apiKeysName then
    match Json.read? Json.Dialect.setting t with
    | some .null => none
    | v? => v?
  else some (.text t)

/-- What an environment has for the stored keys, if anything, is JSON. -/
def Legible (keys : Option Text) : Prop :=
  ∀ t, keys = some t → ∃ v, Json.read? Json.Dialect.setting t = some v

theorem legible_of_none {keys : Option Text} (h : keys = none) : Legible keys :=
  fun _ held => nomatch h.symm.trans held

theorem not_legible {keys : Option Text} (h : ¬ Legible keys) :
    ∃ t, keys = some t ∧ Json.read? Json.Dialect.setting t = none := by
  by_contra none
  refine h fun t held => Option.ne_none_iff_exists'.mp fun illegible => none ⟨t, held, illegible⟩

/-- What an environment says of settings, in their order. -/
def spoken (e : EnvFile.Bindings) (wanted : List Text) : Members :=
  wanted.filterMap fun name => ((bound? e name).bind (meant? name)).map (name, ·)

section Environment
variable {source : Text} {e : EnvFile.Bindings} {wanted : List Text}

theorem spoken_cons (e : EnvFile.Bindings) (first : Text) (rest : List Text) :
    spoken e (first :: rest) =
      (((bound? e first).bind (meant? first)).map (first, ·)).toList ++ spoken e rest := by
  rw [spoken, List.filterMap_cons]
  cases ((bound? e first).bind (meant? first)).map (first, ·) <;> rfl

theorem names_spoken (e : EnvFile.Bindings) (wanted : List Text) :
    ((spoken e wanted).map Prod.fst).Sublist wanted := by
  induction wanted with
  | nil => exact .slnil
  | cons first rest ih =>
      rw [spoken_cons]
      cases (bound? e first).bind (meant? first) with
      | none => exact ih.cons first
      | some v => exact ih.cons_cons first

theorem meant_of_mem_spoken {m : Text × Value} (mem : m ∈ spoken e wanted) :
    (bound? e m.1).bind (meant? m.1) = some m.2 := by
  obtain ⟨name, -, entry⟩ := List.mem_filterMap.mp mem
  obtain ⟨v, told, rfl⟩ := Option.map_eq_some_iff.mp entry
  exact told

theorem get?_spoken {name : Text} (mem : name ∈ wanted) :
    (spoken e wanted).get? name = (bound? e name).bind (meant? name) := by
  induction wanted with
  | nil => cases mem
  | cons first rest ih =>
      rw [spoken_cons, Members.get?_append]
      by_cases same : first = name
      · subst same
        cases told : (bound? e first).bind (meant? first) with
        | none =>
            -- the same name further on has as little to say
            cases later : (spoken e rest).get? first with
            | none => rfl
            | some v =>
                have said := meant_of_mem_spoken (Members.mem_of_get? later)
                exact nomatch told.symm.trans said
        | some v =>
            rw [Option.map_some, Option.toList_some, Members.get?_cons, if_pos rfl]
            rfl
      · rw [ih ((List.mem_cons.mp mem).resolve_left (Ne.symm same))]
        cases (bound? e first).bind (meant? first) with
        | none => rfl
        | some v =>
            rw [Option.map_some, Option.toList_some, Members.get?_cons, if_neg same]
            rfl

theorem fromEnvironment_cons (source first : Text) (e : EnvFile.Bindings) (rest : List Text) :
    fromEnvironment source e (first :: rest) = (do
      let v ← match bound? e first with
        | some t => valueOf source first t
        | none => .ok .null
      let more ← fromEnvironment source e rest
      .ok (match v with
        | .null => more
        | v => (first, v) :: more)) := rfl

theorem fromEnvironment_legible (legible : Legible (bound? e apiKeysName)) :
    fromEnvironment source e wanted = .ok (spoken e wanted) := by
  induction wanted with
  | nil => rfl
  | cons first rest ih =>
      rw [fromEnvironment_cons, ih, spoken_cons]
      cases held : bound? e first with
      | none => rfl
      | some t =>
          by_cases keys : first = apiKeysName
          · subst keys
            obtain ⟨v, read⟩ := legible t held
            simp only [valueOf, Option.bind_some, meant?, if_pos, read]
            cases v <;> rfl
          · simp only [valueOf, Option.bind_some, meant?, if_neg keys]
            rfl

/-- An environment fails on a text for the stored keys that is no JSON. -/
theorem fromEnvironment_illegible {t : Text} (held : bound? e apiKeysName = some t)
    (illegible : Json.read? Json.Dialect.setting t = none) (mem : apiKeysName ∈ wanted) :
    fromEnvironment source e wanted = .error (unreadable apiKeysName source) := by
  induction wanted with
  | nil => cases mem
  | cons first rest ih =>
      rw [fromEnvironment_cons]
      by_cases keys : first = apiKeysName
      · subst keys
        rw [held]
        simp only [valueOf, if_pos, illegible]
        rfl
      · rw [ih ((List.mem_cons.mp mem).resolve_left (Ne.symm keys))]
        cases bound? e first with
        | none => rfl
        | some u =>
            simp only [valueOf, if_neg keys]
            rfl

end Environment

/-! ## All sources -/

/-- What the settings of a deployment are taken from. -/
structure Sources where
  environment : EnvFile.Environment
  file : Option Text
  given : Members

namespace Sources

/-- The settings that are found there. -/
def load (d : Sources) : Except Failure Settings := Settings.load d.environment d.file d.given

/-- What was given directly for a setting. -/
def given? (d : Sources) (name : Text) : Option Value := spelled? d.given name

/-- The variable of a setting. -/
def inEnvironment? (d : Sources) (name : Text) : Option Text := spelled? d.environment name

/-- What a file that is read binds to a setting. -/
def inFile? (d : Sources) (name : Text) : Option Text :=
  (spelled? (fileBindings d.environment d.file) name).join

/-- What is said of a setting by the first source that says anything. -/
def value? (d : Sources) (name : Text) : Option Value :=
  (d.given? name).or
    (((d.inEnvironment? name).bind (meant? name)).or ((d.inFile? name).bind (meant? name)))

variable {d : Sources} {name : Text}

theorem value?_of_given {v : Value} (given : d.given? name = some v) : d.value? name = some v := by
  rw [value?, given, Option.some_or]

theorem value?_of_environment {t : Text} {v : Value} (given : d.given? name = none)
    (held : d.inEnvironment? name = some t) (told : meant? name t = some v) :
    d.value? name = some v := by
  rw [value?, given, held, Option.none_or, Option.bind_some, told, Option.some_or]

theorem value?_of_file {t : Text} {v : Value} (given : d.given? name = none)
    (environment : d.inEnvironment? name = none) (held : d.inFile? name = some t)
    (told : meant? name t = some v) : d.value? name = some v := by
  rw [value?, given, environment, held, Option.none_or, Option.bind_none, Option.none_or,
    Option.bind_some, told]

theorem value?_of_none (given : d.given? name = none) (environment : d.inEnvironment? name = none)
    (file : d.inFile? name = none) : d.value? name = none := by
  rw [value?, given, environment, file]
  rfl

theorem bound?_environment :
    bound? (foldNames (d.environment.map fun (k, v) => (k, some v))) name = d.inEnvironment? name := by
  rw [bound?_foldNames, spelled?_map, inEnvironment?]
  cases spelled? d.environment name <;> rfl

theorem bound?_file :
    bound? (foldNames (fileBindings d.environment d.file)) name = d.inFile? name :=
  bound?_foldNames _ _

/-- A variable for the stored keys that is no JSON fails the deployment, whatever the other sources
say. -/
theorem load_of_environment {t : Text} (held : d.inEnvironment? apiKeysName = some t)
    (illegible : Json.read? Json.Dialect.setting t = none) :
    d.load = .error (unreadable apiKeysName "EnvSettingsSource") := by
  rw [load, Settings.load, gather,
    fromEnvironment_illegible (bound?_environment.trans held) illegible (by decide)]
  rfl

/-- A binding for the stored keys that is no JSON fails the deployment, whatever the other sources
say, if it comes to reading the file. -/
theorem load_of_file {t : Text} (environment : Legible (d.inEnvironment? apiKeysName))
    (held : d.inFile? apiKeysName = some t)
    (illegible : Json.read? Json.Dialect.setting t = none) :
    d.load = .error (unreadable apiKeysName "DotEnvSettingsSource") := by
  rw [load, Settings.load, gather, fromEnvironment_legible (bound?_environment.symm ▸ environment),
    fromEnvironment_illegible (bound?_file.trans held) illegible (by decide)]
  rfl

/-- What the three sources say, each over the one behind it. -/
def found (d : Sources) : Members :=
  let inFile := spoken (foldNames (fileBindings d.environment d.file)) names
  let inEnvironment := spoken (foldNames (d.environment.map fun (k, v) => (k, some v))) names
  (inFile.update inEnvironment).update (fromGiven d.given)

theorem gather_eq (environment : Legible (d.inEnvironment? apiKeysName))
    (file : Legible (d.inFile? apiKeysName)) :
    gather d.environment d.file d.given = .ok d.found := by
  rw [gather, fromEnvironment_legible (bound?_environment.symm ▸ environment),
    fromEnvironment_legible (bound?_file.symm ▸ file)]
  rfl

theorem get?_found (mem : name ∈ names) : d.found.get? name = d.value? name := by
  have unrepeated : names.Nodup := by decide
  rw [found, Members.get?_update_of_distinct (distinct_fromGiven d.given),
    Members.get?_update_of_distinct (unrepeated.sublist (names_spoken _ names)), get?_fromGiven,
    get?_spoken mem, get?_spoken mem, bound?_environment, bound?_file]
  rfl

end Sources

/-! ## Fields -/

/-- What a field is, if this is said of it: its standard value if that is nothing. -/
def Reads {α : Type} (said : Option Value) (default : α) (read : Value → Form.Reading α) (a : α) :
    Prop :=
  said.elim (.ok default) read = .ok a

section Reads
variable {α : Type} {said : Option Value} {default a : α} {read : Value → Form.Reading α}

theorem reads_none (h : said = none) : Reads said default read default := by
  rw [Reads, h, Option.elim_none]

theorem reads_some {v : Value} (h : said = some v) (read_eq : read v = .ok a) :
    Reads said default read a := by
  rw [Reads, h, Option.elim_some, read_eq]

theorem optional_eq_ok_iff {members : Members} {name : Text} :
    Form.optional members [name] default read = .ok a ↔ Reads (members.get? name) default read a := by
  rw [Form.optional, Form.find?, Reads]
  cases members.get? name with
  | none => exact Iff.rfl
  | some v => exact ⟨Form.under_ok, fun h => (congrArg (Form.under _) h :)⟩

end Reads

/-- Settings each of which is what is said of it, or its standard value. -/
structure Fits (said : Text → Option Value) (s : Settings) : Prop where
  logLevel : Reads (said "log_level") standard.logLevel Form.text s.logLevel
  apiTitle : Reads (said "api_title") standard.apiTitle Form.text s.apiTitle
  apiVersion : Reads (said "api_version") standard.apiVersion Form.text s.apiVersion
  enableAccessLog :
    Reads (said "enable_access_log") standard.enableAccessLog Form.bool s.enableAccessLog
  enableCompression :
    Reads (said "enable_gzip_compression") standard.enableCompression Form.bool s.enableCompression
  showFailureCause :
    Reads (said "show_failure_cause") standard.showFailureCause Form.bool s.showFailureCause
  apiKeys : Reads (said apiKeysName) standard.apiKeys readApiKeys s.apiKeys

theorem ofMembers_eq_ok_iff {members : Members} {s : Settings} :
    ofMembers members = .ok s ↔ Fits members.get? s := by
  constructor
  · intro read
    obtain ⟨⟨a, b, c, d, e, f, g⟩, fields, rfl⟩ := Except.map_ok (Form.titled_ok read)
    obtain ⟨first, fields⟩ := Form.both_ok fields
    obtain ⟨second, fields⟩ := Form.both_ok fields
    obtain ⟨third, fields⟩ := Form.both_ok fields
    obtain ⟨fourth, fields⟩ := Form.both_ok fields
    obtain ⟨fifth, fields⟩ := Form.both_ok fields
    obtain ⟨sixth, seventh⟩ := Form.both_ok fields
    exact ⟨optional_eq_ok_iff.mp first, optional_eq_ok_iff.mp second, optional_eq_ok_iff.mp third,
      optional_eq_ok_iff.mp fourth, optional_eq_ok_iff.mp fifth, optional_eq_ok_iff.mp sixth,
      optional_eq_ok_iff.mp seventh⟩
  · intro fits
    rw [ofMembers, optional_eq_ok_iff.mpr fits.logLevel, optional_eq_ok_iff.mpr fits.apiTitle,
      optional_eq_ok_iff.mpr fits.apiVersion, optional_eq_ok_iff.mpr fits.enableAccessLog,
      optional_eq_ok_iff.mpr fits.enableCompression, optional_eq_ok_iff.mpr fits.showFailureCause,
      optional_eq_ok_iff.mpr fits.apiKeys]
    rfl

/-- Settings fit whatever says the same of all others and comes to the same stored keys. -/
theorem Fits.congr {said told : Text → Option Value} {s : Settings} (h : Fits said s)
    (others : ∀ name ∈ names, name ≠ apiKeysName → said name = told name)
    (keys : Reads (said apiKeysName) standard.apiKeys readApiKeys s.apiKeys →
      Reads (told apiKeysName) standard.apiKeys readApiKeys s.apiKeys) : Fits told s := by
  simp only [names, List.forall_mem_cons] at others
  obtain ⟨first, second, third, fourth, fifth, sixth, -⟩ := others
  exact ⟨first (by decide) ▸ h.logLevel, second (by decide) ▸ h.apiTitle,
    third (by decide) ▸ h.apiVersion, fourth (by decide) ▸ h.enableAccessLog,
    fifth (by decide) ▸ h.enableCompression, sixth (by decide) ▸ h.showFailureCause, keys h.apiKeys⟩

/-- A deployment has these settings if and only if they fit what its sources say and the texts for the
stored keys are JSON, the one that is overruled included. -/
theorem Sources.load_eq_ok_iff {d : Sources} {s : Settings} :
    d.load = .ok s ↔ Legible (d.inEnvironment? apiKeysName) ∧ Legible (d.inFile? apiKeysName) ∧
      Fits d.value? s := by
  -- the environment is read before the file, so the file need be legible only if it comes to that
  by_cases environment : Legible (d.inEnvironment? apiKeysName)
  · by_cases file : Legible (d.inFile? apiKeysName)
    · have fields : d.load = .ok s ↔ ofMembers d.found = .ok s := by
        rw [load, Settings.load, gather_eq environment file, Except.ok_bind]
        cases ofMembers d.found with
        | ok s => exact ⟨fun h => congrArg _ (Except.ok.inj h), fun h => congrArg _ (Except.ok.inj h)⟩
        | error r => exact iff_of_false nofun nofun
      have keys : d.found.get? apiKeysName = d.value? apiKeysName := get?_found (by decide)
      rw [fields, ofMembers_eq_ok_iff]
      exact ⟨fun fits => ⟨environment, file, fits.congr (fun _ mem _ => get?_found mem) (keys ▸ id)⟩,
        fun ⟨_, _, fits⟩ => fits.congr (fun _ mem _ => (get?_found mem).symm) (keys ▸ id)⟩
    · obtain ⟨t, held, illegible⟩ := not_legible file
      rw [load_of_file environment held illegible]
      exact iff_of_false nofun fun h => file h.2.1
  · obtain ⟨t, held, illegible⟩ := not_legible environment
    rw [load_of_environment held illegible]
    exact iff_of_false nofun fun h => environment h.1

end QueryGateway.Settings
