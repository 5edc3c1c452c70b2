import QueryGateway.Proofs.Graph.Answer
import QueryGateway.Sample.Deployment

/-!
# What the sample answers to its question

The sample has one thing to tell: who is asking. The question for it is read here, found valid for
the schema of any user, and run. What comes of it is the profile that is in the cache for that user,
or a new one (`answer_question`), so an answer depends on the caches in this one place.

The document is fixed, and so the way through it is: the rules of validation are evaluated on it, one
theorem for each kind of them. The schema is not, for its resolver knows the user.
-/

namespace QueryGateway.Sample

open Credential (ApiUser)
open Invocation (Caches Query Result User)
open QueryGateway.Graph
open Validation

/-- The question for the own profile. -/
def question : Text := "\x7b me \x7b id keyId \x7d \x7d"

/-! ## The document -/

/-- The field of the user's name. -/
def idField : Field := ⟨none, ⟨"id", 7⟩, [], [], none⟩

/-- The field of the key. -/
def keyIdField : Field := ⟨none, ⟨"keyId", 10⟩, [], [], none⟩

/-- What is selected from the profile. -/
def profileFields : List Selection := [.field idField [], .field keyIdField []]

/-- The field of the profile. -/
def meField : Field := ⟨none, ⟨"me", 2⟩, [], [], some 5⟩

/-- The operation of the question. -/
def operation : Operation := ⟨0, .query, none, [], [], 0, [.field meField profileFields]⟩

/-- The question, read. -/
def document : Document := ⟨[.operation operation]⟩

set_option maxRecDepth 10000 in
theorem read_question : Document.read question = .ok document := by rfl

/-! ## The document is valid -/

section
variable (user : User)

/-- The schema as the engine uses it. -/
abbrev known : Schema Caches := (schema user).reflective

/-- The field of the profile in the schema. -/
def meDef : FieldDef Caches := ⟨"me", [], .named userType.name, resolveMe user⟩

/-- The profile where the question asks for it. -/
def meSite : FieldSite Caches := ⟨some (known user).root, some (meDef user), meField, profileFields⟩

/-- A field of the profile where the question asks for it. -/
def leafSite (field : Field) (type : TypeUse) : FieldSite Caches :=
  ⟨some userType, some (.member field.name.text type), field, []⟩

/-- The way through the question. -/
def way : List (Site Caches) :=
  let id := leafSite idField (.required (.named Scalar.id.name))
  let keyId := leafSite keyIdField (.named Scalar.string.name)
  [.document, .operation operation, .selections (some (known user).root) 0 operation.selections,
    .field (meSite user), .selections (some userType) 5 profileFields, .field id, .fieldEnd id,
    .field keyId, .fieldEnd keyId, .fieldEnd (meSite user), .operationEnd operation, .documentEnd]

set_option maxRecDepth 10000 in
theorem sites_eq : sites (known user) document = way user := by rfl

set_option maxRecDepth 10000 in
theorem findings_way : ∀ site ∈ way user, findings (known user) document site = [] :=
  List.map_inj_left.mp (show (way user).map (findings (known user) document) =
    (way user).map fun _ => [] by rfl)

set_option maxRecDepth 10000 in
theorem overlaps_way : overlaps (known user) document (way user) = (way user).map fun _ => [] := by
  rfl

theorem uniqueInputFields_way : ∀ site ∈ way user,
    uniqueInputFields (known user) document site = [] :=
  List.map_inj_left.mp (show (way user).map (uniqueInputFields (known user) document) =
    (way user).map fun _ => [] by rfl)

theorem narrowQuestions_way : ∀ site ∈ way user,
    narrowQuestions (known user) document site = [] :=
  List.map_inj_left.mp (show (way user).map (narrowQuestions (known user) document) =
    (way user).map fun _ => [] by rfl)

theorem faults_document : faults (known user) document = [] :=
  faults_eq_nil (sites_eq user) (findings_way user) (overlaps_way user) (uniqueInputFields_way user)
    (narrowQuestions_way user)

end

/-! ## What it comes to -/

/-- The result that tells a user who he is. -/
def told (u : ApiUser) : Result := ⟨Value.object [("me", profile u)], none, .null⟩

section
variable (e : Setting Caches)

theorem collect_operation (type : Text) (fuel : Nat) :
    collect e type fuel [operation.selections] = .ok [⟨"me", (meField, profileFields), []⟩] := by
  simp only [collect, List.foldlM, operation, collectAll, collectOne]
  rfl

theorem collect_profile (type : Text) (fuel : Nat) :
    collect e type fuel [profileFields] = .ok [⟨"id", (idField, []), []⟩,
      ⟨"keyId", (keyIdField, []), []⟩] := by
  simp only [collect, List.foldlM, profileFields, collectAll, collectOne]
  rfl

end

theorem profile_from (user : User) (bindings : Members) (fuel : Nat) (path : List Value)
    (u : ApiUser) (s : Caches × List Fault) :
    (objectMembers ⟨known user, document, bindings⟩ (fuel + 1) userType path (profile u)
        [⟨"id", (idField, []), []⟩, ⟨"keyId", (keyIdField, []), []⟩]).from s =
      (.ok [("id", .text u.userId), ("keyId", .text u.keyId)], s) := by
  rfl

/-- The question comes to the profile that is found or made. -/
theorem answer_question {u w : ApiUser} {bindings : Members} {caches caches' : Caches}
    (loaded : loadProfile u caches = (.ok (profile w), caches')) :
    answer (schema (.owner u)) ⟨question, none, bindings⟩ caches = (told w, caches') := by
  have bound : variableValues (known (.owner u)) bindings operation = .ok [] := rfl
  have type : (meDef (.owner u)).type = .named userType.name := rfl
  refine answer_ok read_question (faults_document _) rfl bound ?_
  refine run_ok (collect_operation ..) ?_
  exact objectMembers_from (d := meDef (.owner u)) rfl rfl type rfl loaded (collect_profile ..)
    (profile_from ..)

end QueryGateway.Sample
