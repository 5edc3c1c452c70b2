import QueryGateway.Proofs.Invocation.Malformed
import QueryGateway.Proofs.Form.Record
import QueryGateway.Proofs.Json.Readable
import QueryGateway.Proofs.Json.Spelling

/-!
# Which bodies are requests

`Query.parse_grammar` says of every body whether it is a request, which one, and what is complained
about if it is none. It speaks of the text alone: a body is a request if the grammar builds it as an
object (`Json.Table`) whose members, the last of each name, ask for a query (`Asks`). The query has
to be there and be a text; a name for the operation and values for the variables may be left out or
be null. All other members are free, but they are part of the text, so they are JSON too.

What is wrong with the members of an object is the list of its `offences`, computed from the three
members without a reader. A body that is no object has one fault, its own (`Unfit`), and a body
without content is not complained about in detail at all.

What is NOT here: how a body is taken out of an event. That is `Arrival.query`.
-/

namespace QueryGateway.Invocation.Query

open Text Json

/-! ## What the members of an object ask for -/

/-- What an object holds under a name: of members with the same name the last one counts. -/
def held (written : Members) (name : Text) : Option Value := Members.get? written.reverse name

/-- The name under which an object holds the name of the operation. -/
def operationField (written : Members) : Text :=
  if (held written "operationName").isSome then "operationName" else "operation_name"

/-- A name for an operation, which may be left out or null. -/
inductive NamesOperation : Option Value → Option Text → Prop
  | absent : NamesOperation none none
  | null : NamesOperation (some .null) none
  | text (t : Text) : NamesOperation (some (.text t)) (some t)

/-- Values for variables, which may be left out or null. -/
inductive Binds : Option Value → Members → Prop
  | absent : Binds none []
  | null : Binds (some .null) []
  | table (bindings : Members) : Binds (some (Value.object bindings)) bindings

/-- The members of an object ask for a query. -/
structure Asks (written : Members) (q : Query) : Prop where
  text : held written "query" = some (.text q.text)
  operationName : NamesOperation (held written (operationField written)) q.operationName
  bindings : Binds (held written "variables") q.bindings

/-! ## What is wrong with them -/

/-- The fault of the query's member. -/
def textFault : Option Value → Option Form.Fault
  | none => some .missing
  | some (.text _) => none
  | some _ => some .textKind

/-- The fault of the operation's member. -/
def operationFault : Option Value → Option Form.Fault
  | none | some .null | some (.text _) => none
  | some _ => some .textKind

/-- The fault of the variables' member. -/
def bindingsFault : Option Value → Option Form.Fault
  | none | some .null | some (.map _) => none
  | some _ => some .mapKind

/-- The fields of an object that are at fault, in order. -/
def offences (written : Members) : List (Text × Form.Fault) :=
  fault "query" (textFault (held written "query")) ++
    fault (operationField written) (operationFault (held written (operationField written))) ++
    fault "variables" (bindingsFault (held written "variables"))
where
  /-- The fault of a field, if it has one. -/
  fault (field : Text) (f : Option Form.Fault) : List (Text × Form.Fault) := f.toList.map (field, ·)

/-- What is wrong with a text that is no object. -/
inductive Unfit (t : Text) : Form.Fault → Prop
  | surrogate : ¬ t.IsScalar → Unfit t .textSurrogate
  | noJson : t.IsScalar → (∀ v, ¬ Denotes Dialect.body t v) → Unfit t .jsonInvalid
  | noObject {v : Value} : t.IsScalar → Denotes Dialect.body t v →
      (∀ written, ¬ Table Dialect.body t written) → Unfit t .recordKind

/-- An offence as it is reported. -/
def entry (offence : Text × Form.Fault) : Value :=
  Value.object [("field", .text offence.1), ("type", .text offence.2.code)]

/-- A malformed request that lists these offences in its details. -/
def Lists (f : Failure) (faults : List (Text × Form.Fault)) : Prop :=
  ∃ cause, f = (Failure.standard .malformedRequest
    [("validation_errors", .list (faults.map entry))]).causedBy cause

/-! ## Reading the members -/

/-- An offence as the reader of records complains about it. -/
def complaint (offence : Text × Form.Fault) : Form.Complaint :=
  ⟨[.name offence.1], offence.2⟩

section Members
variable {written : Members}

theorem readable_held {name : Text} {v : Value}
    (readable : Readable 200 (Value.object (resolve written))) (h : held written name = some v) :
    Readable 199 v := by
  obtain ⟨members, whole, -, -, values⟩ := readable.table
  rw [held, ← get?_resolve, Value.object_injective whole] at h
  exact values _ (Members.mem_of_get? h)

theorem find?_one (name : Text) :
    Form.find? (resolve written) [name] = (held written name).map (name, ·) := by
  rw [Form.find?, get?_resolve, ← held]
  cases held written name <;> rfl

theorem find?_operation :
    Form.find? (resolve written) ["operationName", "operation_name"] =
      (held written (operationField written)).map (operationField written, ·) := by
  rw [Form.find?, get?_resolve, ← held, find?_one, operationField]
  cases found : held written "operationName" with
  | some v =>
      rw [if_pos Option.isSome_some, found]
      rfl
  | none => rfl

theorem text_outcome (readable : ∀ v, held written "query" = some v → Readable 199 v) :
    Form.Outcome (Form.required (resolve written) ["query"] Form.text)
      (fun t => held written "query" = some (.text t))
      ((offences.fault "query" (textFault (held written "query"))).map complaint) := by
  rw [Form.required, find?_one]
  cases found : held written "query" with
  | none => exact .error rfl
  | some v =>
      cases readable v found with
      | text => exact .ok rfl rfl
      | _ => exact .error rfl

theorem operation_outcome
    (readable : ∀ v, held written (operationField written) = some v → Readable 199 v) :
    Form.Outcome (Form.optional (resolve written) ["operationName", "operation_name"] none
        Form.optionalText)
      (fun name => NamesOperation (held written (operationField written)) name)
      ((offences.fault (operationField written)
        (operationFault (held written (operationField written)))).map complaint) := by
  rw [Form.optional, find?_operation]
  cases found : held written (operationField written) with
  | none => exact .ok rfl .absent
  | some v =>
      cases readable v found with
      | null => exact .ok rfl .null
      | text => exact .ok rfl (.text _)
      | _ => exact .error rfl

theorem bindings_outcome (readable : ∀ v, held written "variables" = some v → Readable 199 v) :
    Form.Outcome (Form.optional (resolve written) ["variables"] []
        (Form.nullAsEmpty (Form.table Form.any)))
      (fun bindings => Binds (held written "variables") bindings)
      ((offences.fault "variables" (bindingsFault (held written "variables"))).map complaint) := by
  rw [Form.optional, find?_one]
  cases found : held written "variables" with
  | none => exact .ok rfl .absent
  | some v =>
      cases readable v found with
      | null => exact .ok rfl .null
      | emptyObject => exact .ok rfl (.table [])
      | @object _ members distinct =>
          refine .ok ?_ (.table members)
          show Form.under _ (Form.table Form.any (Value.object members)) = _
          rw [Form.table_any distinct]
          rfl
      | _ => exact .error rfl

/-- The members of an object are a query, or each of their offences is complained about. -/
theorem ofMembers_outcome (readable : Readable 200 (Value.object (resolve written))) :
    (offences written = [] ∧ ∃ q, ofMembers (resolve written) = .ok q ∧ Asks written q) ∨
      offences written ≠ [] ∧
        ofMembers (resolve written) = .error ⟨title, (offences written).map complaint⟩ := by
  have each (name : Text) : ∀ v, held written name = some v → Readable 199 v :=
    fun v h => readable_held readable h
  have fields := (text_outcome (each _)).both
    ((operation_outcome (each _)).both (bindings_outcome (each _)))
  rw [← List.append_assoc, ← List.map_append, ← List.map_append] at fields
  have outcome : Form.Outcome (Except.map (fun (text, operationName, bindings) =>
      (⟨text, operationName, bindings⟩ : Query)) _) (Asks written)
      ((offences written).map complaint) :=
    fields.map fun _ asked => ⟨asked.1, asked.2.1, asked.2.2⟩
  rcases outcome.titled with ⟨none, q, read, asks⟩ | ⟨some, rejected⟩
  · exact .inl ⟨List.map_eq_nil_iff.mp none, q, read, asks⟩
  · exact .inr ⟨fun none => some (none ▸ rfl), rejected⟩

end Members

/-! ## What is asked for is asked for once -/

theorem NamesOperation.unique {v : Option Value} {a b : Option Text} (ha : NamesOperation v a)
    (hb : NamesOperation v b) : a = b := by
  cases ha <;> cases hb <;> rfl

theorem Binds.unique {v : Option Value} {a b : Members} (ha : Binds v a) (hb : Binds v b) :
    a = b := by
  generalize same : v = w at hb
  cases ha with
  | absent => cases hb <;> cases same; rfl
  | null => cases hb <;> cases same; rfl
  | table =>
      cases hb with
      | table => exact Value.object_injective (Option.some.inj same)
      | absent | null => cases same

theorem Asks.unique {written : Members} {p q : Query} (hp : Asks written p) (hq : Asks written q) :
    p = q := by
  obtain ⟨text, operationName, bindings⟩ := p
  obtain ⟨text', operationName', bindings'⟩ := q
  cases hp.text.symm.trans hq.text
  cases hp.operationName.unique hq.operationName
  cases hp.bindings.unique hq.bindings
  rfl

theorem NamesOperation.faultless {v : Option Value} {name : Option Text}
    (h : NamesOperation v name) : operationFault v = none := by
  cases h <;> rfl

theorem Binds.faultless {v : Option Value} {bindings : Members} (h : Binds v bindings) :
    bindingsFault v = none := by
  cases h <;> rfl

theorem Asks.offences_eq_nil {written : Members} {q : Query} (h : Asks written q) :
    offences written = [] := by
  rw [offences, h.text, h.operationName.faultless, h.bindings.faultless]
  rfl

/-! ## Bodies -/

theorem ofJson_table {t : Text} {written : Members} (scalar : t.IsScalar)
    (table : Table Dialect.body t written) :
    Readable 200 (Value.object (resolve written)) ∧ ofJson t = ofMembers (resolve written) := by
  have read := read?_eq_some_iff.mpr table.denotes
  have unicode : ¬ (!t.isScalar) = true := by
    rw [isScalar_iff.mpr scalar]
    exact Bool.false_ne_true
  refine ⟨readable_read? read scalar, ?_⟩
  rw [ofJson, if_neg unicode, read]
  show ofMembers (Form.named _) = _
  rw [Form.named_object]

/-- A text is an object, or it is unfit in one of three ways. -/
theorem ofJson_unfit {t : Text} (none : ∀ written, ¬ (t.IsScalar ∧ Table Dialect.body t written)) :
    ∃ fault, Unfit t fault ∧ ofJson t = .error ⟨title, [⟨[], fault⟩]⟩ := by
  by_cases scalar : t.IsScalar
  · have unicode : ¬ (!t.isScalar) = true := by
      rw [isScalar_iff.mpr scalar]
      exact Bool.false_ne_true
    have noTable : ∀ written, ¬ Table Dialect.body t written :=
      fun written table => none written ⟨scalar, table⟩
    cases read : read? Dialect.body t with
    | none =>
        have noJson : ∀ v, ¬ Denotes Dialect.body t v :=
          fun v denotes => nomatch read.symm.trans (read?_eq_some_iff.mpr denotes)
        exact ⟨_, .noJson scalar noJson, by rw [ofJson, if_neg unicode, read]⟩
    | some v =>
        have denotes := read?_eq_some_iff.mp read
        refine ⟨_, .noObject scalar denotes noTable, ?_⟩
        rw [ofJson, if_neg unicode, read]
        cases v with
        | map pairs =>
            obtain ⟨written, table, -⟩ := denotes.table
            exact absurd table (noTable written)
        | _ => rfl
  · have surrogate : (!t.isScalar) = true := by
      rw [Bool.not_eq_true', ← Bool.not_eq_true, isScalar_iff]
      exact scalar
    exact ⟨_, .surrogate scalar, by rw [ofJson, if_pos surrogate]⟩

/-- How a body is refused: without detail if it has no content, with a single entry for the body if
it is no object, and else with an entry for each offence of its members. -/
structure Refuses (body : Option Text) (f : Failure) : Prop where
  malformed : IsMalformedRequest f
  empty : (∀ t, body = some t → isBlank t = true) → f = emptyBody
  unfit : ∀ {t}, body = some t → isBlank t = false →
    (∀ written, ¬ (t.IsScalar ∧ Table Dialect.body t written)) →
    ∃ fault, Unfit t fault ∧ Lists f [("body", fault)]
  fields : ∀ {t written}, body = some t → t.IsScalar → Table Dialect.body t written →
    Lists f (offences written)

theorem blank_of_table {d : Dialect} {t : Text} {written : Members} (table : Table d t written) :
    isBlank t = false := table.denotes.not_blank

theorem reported_complaint {offence : Text × Form.Fault} (named : offence.1 ≠ []) :
    reported (complaint offence) = entry offence := by
  have dotted : (complaint offence).dotted = offence.1 := rfl
  rw [reported, dotted, if_neg named]
  rfl

theorem offences_named {written : Members} : ∀ offence ∈ offences written, offence.1 ≠ [] := by
  have one {field : Text} {f : Option Form.Fault} (named : field ≠ []) :
      ∀ offence ∈ offences.fault field f, offence.1 ≠ [] := by
    intro offence mem
    obtain ⟨x, -, rfl⟩ := List.mem_map.mp mem
    exact named
  have operation : operationField written ≠ [] := by
    rw [operationField]
    split <;> exact List.cons_ne_nil _ _
  intro offence mem
  rcases List.mem_append.mp mem with mem | mem
  · rcases List.mem_append.mp mem with mem | mem
    · exact one (List.cons_ne_nil _ _) offence mem
    · exact one operation offence mem
  · exact one (List.cons_ne_nil _ _) offence mem

theorem lists_malformed {faults : List (Text × Form.Fault)} {complaints : List Form.Complaint}
    (same : complaints.map reported = faults.map entry) :
    Lists (malformed ⟨title, complaints⟩) faults :=
  ⟨_, by rw [malformed, same]⟩

theorem refuses_of_parse {body : Option Text} {f : Failure} (h : parse body = .error f) :
    Refuses body f := by
  have malformed := classified_parse h
  cases body with
  | none =>
      cases h
      exact ⟨malformed, fun _ => rfl, nofun, nofun⟩
  | some t =>
  rw [parse] at h
  cases solid : isBlank t with
  | true =>
      rw [solid] at h
      cases h
      refine ⟨malformed, fun _ => rfl, fun same solid' => ?_, fun same _ table => ?_⟩
      · cases same
        exact nomatch solid.symm.trans solid'
      · cases same
        exact nomatch solid.symm.trans (blank_of_table table)
  | false =>
      rw [solid] at h
      refine ⟨malformed, fun blank => (nomatch solid.symm.trans (blank t rfl)), ?_, ?_⟩
      · intro u same _ none
        cases same
        obtain ⟨fault, unfit, unread⟩ := ofJson_unfit none
        rw [unread] at h
        cases h
        exact ⟨fault, unfit, lists_malformed rfl⟩
      · intro u written same scalar table
        cases same
        obtain ⟨readable, members⟩ := ofJson_table scalar table
        rw [members] at h
        rcases ofMembers_outcome readable with ⟨-, p, read, -⟩ | ⟨-, rejected⟩
        · rw [read] at h
          cases h
        · rw [rejected] at h
          cases h
          refine lists_malformed ?_
          rw [List.map_map]
          exact List.map_congr_left fun offence mem =>
            reported_complaint (offences_named offence mem)

theorem parse_eq_ok_iff {body : Option Text} {q : Query} :
    parse body = .ok q ↔ ∃ t written, body = some t ∧ isBlank t = false ∧ t.IsScalar ∧
      Table Dialect.body t written ∧ Asks written q := by
  constructor
  · intro h
    obtain ⟨t, rfl, solid, read⟩ := parse_ok.mp h
    by_cases fit : ∃ written, t.IsScalar ∧ Table Dialect.body t written
    · obtain ⟨written, scalar, table⟩ := fit
      obtain ⟨readable, members⟩ := ofJson_table scalar table
      rcases ofMembers_outcome readable with ⟨-, p, asked, asks⟩ | ⟨-, rejected⟩
      · cases (members.symm.trans read).symm.trans asked
        exact ⟨t, written, rfl, solid, scalar, table, asks⟩
      · exact nomatch (members.symm.trans read).symm.trans rejected
    · obtain ⟨fault, -, unread⟩ := ofJson_unfit fun written h => fit ⟨written, h⟩
      exact nomatch read.symm.trans unread
  · rintro ⟨t, written, rfl, solid, scalar, table, asks⟩
    obtain ⟨readable, members⟩ := ofJson_table scalar table
    refine parse_ok.mpr ⟨t, rfl, solid, ?_⟩
    rcases ofMembers_outcome readable with ⟨-, p, read, asks'⟩ | ⟨offended, -⟩
    · rw [members, read, asks.unique asks']
    · exact absurd asks.offences_eq_nil offended

/-- A body is a request if the grammar builds it as an object that asks for one; every other body is
refused. -/
theorem parse_grammar (body : Option Text) :
    (∀ q, parse body = .ok q ↔ ∃ t written, body = some t ∧ isBlank t = false ∧ t.IsScalar ∧
      Table Dialect.body t written ∧ Asks written q) ∧
    ∀ f, parse body = .error f → Refuses body f :=
  ⟨fun _ => parse_eq_ok_iff, fun _ => refuses_of_parse⟩

/-! ## The length of numbers

That numbers must not be too long is no part of JSON, and it is a limit on all numbers of a body,
not only on those that a query uses. So there are bodies that are refused for a number that nobody
would have looked at. -/

/-- Bodies as they would be if numbers could have any length. -/
def lax : Dialect := { Dialect.body with maxLead := none }

theorem stricter_lax : Dialect.body.Stricter lax :=
  ⟨fun lone => lone, fun room => room, fun short => short, fun _ => rfl⟩

/-- A request with a number in a member that has no influence. -/
def numbered (ds : Text) : Text :=
  "\x7b\"query\":\"\x7b hello \x7d\",\"n\":" ++ ds ++ "\x7d"

/-- The members of that request. -/
def numberedMembers (ds : Text) : Members :=
  [("query", .text "\x7b hello \x7d"), ("n", .int (signed false ds))]

theorem table_numbered {ds : Text} (whole : Whole ds) :
    Table lax (numbered ds) (numberedMembers ds) := by
  have colon : Mark ':' ":" := .gap blank_nil
  have query : Spells lax 0 "\"query\":\"\x7b hello \x7d\"" ("query", .text "\x7b hello \x7d") :=
    .member (label_quoted colon (chars_plainEscape "query"))
      (.text (chars_plainEscape "\x7b hello \x7d"))
  have digits : Scalar lax (sign false ++ ds) (.int (signed false ds)) := .int whole rfl rfl
  have number : Spells lax 0 ("\"" ++ "n" ++ "\"" ++ ":" ++ ds) ("n", .int (signed false ds)) :=
    .member (label_quoted colon (chars_plainEscape "n")) (.scalar digits)
  have table := Table.members (d := lax) rfl blank_nil
    (pairs_join (.gap blank_nil) (.cons query (.cons number .nil))) blank_nil
  have text : numbered ds = [] ++ CodePoint.ofChar '\x7b' ::
      (join "," ["\"query\":\"\x7b hello \x7d\"", "\"" ++ "n" ++ "\"" ++ ":" ++ ds] ++
        CodePoint.ofChar '\x7d' :: []) := by
    rfl
  rw [text]
  exact table

theorem asks_numbered (ds : Text) :
    Asks (numberedMembers ds) ⟨"\x7b hello \x7d", none, []⟩ :=
  ⟨rfl, .absent, .absent⟩

/-- A number of more digits than numbers may have is not the value of a text in a body. -/
theorem not_parse_numbered {ds : Text} (whole : Whole ds)
    (leading : ds.head? ≠ CodePoint.ofChar '0') (long : maxDigits < ds.length) (q : Query) :
    parse (some (numbered ds)) ≠ .ok q := by
  intro h
  obtain ⟨t, written, same, -, scalar, table, -⟩ := parse_eq_ok_iff.mp h
  cases same
  have denotes := table.denotes
  have value := (denotes.relax stricter_lax).unique (table_numbered whole).denotes
  have readable := readable_read? (read?_eq_some_iff.mpr denotes) scalar
  rw [value] at readable
  obtain ⟨members, whole', -, -, values⟩ := readable.table
  have held : members = numberedMembers ds := (Value.object_injective whole').symm
  have short := values ("n", .int (signed false ds)) (held ▸ .tail _ (.head _))
  cases short with
  | int short =>
      have text : ofNat (signed false ds).natAbs = ds :=
        ofNat_digitsValue whole.run whole.ne_nil leading
      rw [text] at short
      omega

/-- So a request is refused for a number that it does not ask for: the grammar of JSON builds its
text as an object that asks for a query, and only the length of that number keeps it from being
one. -/
theorem overlong_refused :
    let body := numbered (List.replicate 4301 '1')
    let written := numberedMembers (List.replicate 4301 '1')
    isBlank body = false ∧ body.IsScalar ∧ Table lax body written ∧
      Asks written ⟨"\x7b hello \x7d", none, []⟩ ∧
      ∀ q, parse (some body) ≠ .ok q := by
  have whole : Whole (List.replicate 4301 (CodePoint.ofChar '1')) := by
    refine ⟨⟨fun c mem => ?_, List.cons_ne_nil _ _⟩, fun same => ?_⟩
    · rw [List.eq_of_mem_replicate mem]
      rfl
    · exact nomatch (List.cons.inj same).1
  have table := table_numbered whole
  have scalar : (numbered (List.replicate 4301 '1')).IsScalar :=
    ((isScalar_ofString _).append (isScalar_replicate rfl 4301)).append (isScalar_ofString _)
  refine ⟨blank_of_table table, scalar, table, asks_numbered _, ?_⟩
  exact not_parse_numbered whole (by decide) (by rw [List.length_replicate]; decide)

end QueryGateway.Invocation.Query
