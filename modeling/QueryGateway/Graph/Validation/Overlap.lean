import QueryGateway.Graph.Fault
import QueryGateway.Graph.Validation.Walk

/-!
# Fields that share a name in the result

Two fields of the same name in the result become one, so they must be the same field with the same
arguments, and what is selected below them must fit together in the same way. Fields of two different
object types never meet, but their values must still be of the same shape.

The fields of selections are compared with each other, with those of the fragments that are put in,
and those of the fragments with each other. A pair that was compared is not compared again, also not
for other selections of the document: so every conflict is reported once, and the search ends even if
fragments contain themselves.
-/

namespace QueryGateway.Graph.Validation

variable {σ : Type}

structure Mention (σ : Type) where
  parent : Option (TypeDef σ)
  field : Field
  body : List Selection
  definition : Option (FieldDef σ)

/-- What selections hold: the fields by their name in the result, in order of first mention, and the
names of the fragments that are put in. `id` tells selections apart. -/
structure Content (σ : Type) where
  id : Nat
  fields : List (Text × List (Mention σ))
  fragments : List Text

namespace Content

def addTo (fields : List (Text × List (Mention σ))) (key : Text) (m : Mention σ) :
    List (Text × List (Mention σ)) :=
  match fields with
  | [] => [(key, [m])]
  | (k, ms) :: rest => if k = key then (k, ms ++ [m]) :: rest else (k, ms) :: addTo rest key m

def under (c : Content σ) (key : Text) : List (Mention σ) :=
  ((c.fields.find? fun f => f.1 = key).map (·.2)).getD []

mutual

def addSelection (s : Schema σ) (type : Option (TypeDef σ)) (c : Content σ) : Selection → Content σ
  | .field f body =>
    let definition := (parentOf type).bind fun o => o.field? f.name.text
    { c with fields := addTo c.fields f.key ⟨type, f, body, definition⟩ }
  | .spread p =>
    if c.fragments.contains p.name.text then c
    else { c with fragments := c.fragments ++ [p.name.text] }
  | .inline i body => addSelections s (inlineType s type i) c body

def addSelections (s : Schema σ) (type : Option (TypeDef σ)) (c : Content σ) :
    List Selection → Content σ
  | [] => c
  | x :: rest => addSelections s type (addSelection s type c x) rest

end

def of (s : Schema σ) (type : Option (TypeDef σ)) (brace : Nat) (xs : List Selection) : Content σ :=
  addSelections s type ⟨brace, [], []⟩ xs

def ofFragment (s : Schema σ) (f : Fragment) : Content σ :=
  of s (s.type? f.condition.text) f.brace f.selections

end Content

structure Conflict where
  key : Text
  reason : Text
  first : List Nat
  second : List Nat
deriving Repr

def Conflict.below (c : Conflict) : Text :=
  "subfields '" ++ c.key ++ "' conflict because " ++ c.reason

def Conflict.fault (c : Conflict) : Fault :=
  .at ("Fields '" ++ c.key ++ "' conflict because " ++ c.reason ++
    ". Use different aliases on the fields to fetch both if this was intentional.")
    (c.first ++ c.second)

/-- What was compared: two fragments, or selections and a fragment, each with whether the fields
around them never meet. The latest comparison stands first. -/
structure Compared where
  fragments : List ((Text × Text) × Bool)
  contents : List ((Nat × Text) × Bool)

namespace Compared

def covers {κ : Type} [BEq κ] (made : List (κ × Bool)) (key : κ) (apart : Bool) : Bool :=
  match made.find? fun m => m.1 == key with
  | some (_, before) => apart || !before
  | none => false

def pair (a b : Text) : Text × Text := if textLe a b then (a, b) else (b, a)

end Compared

abbrev Search := StateM Compared (List Conflict)

def searchAll {α : Type} (xs : List α) (search : α → Search) : Search :=
  match xs with
  | [] => pure []
  | x :: rest => return (← search x) ++ (← searchAll rest search)

def pairs {α : Type} : List α → List (α × α)
  | [] => []
  | a :: rest => rest.map (a, ·) ++ pairs rest

def differInShape (s : Schema σ) : TypeUse → TypeUse → Bool
  | .list a, .list b => differInShape s a b
  | .list _, _ => true
  | .required a, .required b => differInShape s a b
  | .required _, _ => true
  | .named _, .list _ => true
  | .named _, .required _ => true
  | .named a, .named b =>
    let isLeaf (n : Text) : Bool := ((s.type? n).bind (·.object?)).isNone
    (isLeaf a || isLeaf b) && a ≠ b

def sameArguments (f g : Field) : Bool :=
  f.arguments.length = g.arguments.length &&
    f.arguments.all fun a =>
      match g.arguments.reverse.find? fun b => b.name.text = a.name.text with
      | some b => a.value.sorted.shown = b.value.sorted.shown
      | none => false

def neverMeet (a b : Option (TypeDef σ)) : Bool :=
  match parentOf a, parentOf b with
  | some o, some p => o.name ≠ p.name
  | _, _ => false

def ownReason? (s : Schema σ) (apart : Bool) (a b : Mention σ) : Option Text :=
  if !apart && a.field.name.text ≠ b.field.name.text then
    some (quoted a.field.name.text ++ " and " ++ quoted b.field.name.text ++ " are different fields")
  else if !apart && !sameArguments a.field b.field then some "they have differing arguments"
  else
    match a.definition, b.definition with
    | some d, some e =>
      if differInShape s d.type e.type then
        some ("they return conflicting types " ++ quoted d.type.shown ++ " and " ++
          quoted e.type.shown)
      else none
    | _, _ => none

def belowConflict (key : Text) (a b : Mention σ) (found : List Conflict) : List Conflict :=
  if found.isEmpty then []
  else
    [⟨key, Text.join " and " (found.map Conflict.below),
      a.field.start :: found.flatMap (·.first), b.field.start :: found.flatMap (·.second)⟩]

def Mention.content (s : Schema σ) (m : Mention σ) (brace : Nat) : Content σ :=
  .of s (m.definition.bind fun d => s.type? d.type.name) brace m.body

mutual

def compareFields (s : Schema σ) (d : Document) :
    Nat → (apart : Bool) → Text → Mention σ → Mention σ → Search
  | 0, _, _, _, _ => pure []
  | fuel + 1, apart, key, a, b => do
    let apart := apart || neverMeet a.parent b.parent
    match ownReason? s apart a b with
    | some reason => pure [⟨key, reason, [a.field.start], [b.field.start]⟩]
    | none =>
      match a.field.brace, b.field.brace with
      | some x, some y =>
        return belowConflict key a b (← compareBelow s d fuel apart (a.content s x) (b.content s y))
      | _, _ => pure []

def compareBelow (s : Schema σ) (d : Document) :
    Nat → (apart : Bool) → Content σ → Content σ → Search
  | 0, _, _, _ => pure []
  | fuel + 1, apart, x, y => do
    let direct ← compareContents s d fuel apart x y
    let first ← searchAll y.fragments fun n => compareWithFragment s d fuel apart x n
    let second ← searchAll x.fragments fun n => compareWithFragment s d fuel apart y n
    let both ← searchAll x.fragments fun m =>
      searchAll y.fragments fun n => compareFragments s d fuel apart m n
    return direct ++ first ++ second ++ both

def compareContents (s : Schema σ) (d : Document) :
    Nat → (apart : Bool) → Content σ → Content σ → Search
  | 0, _, _, _ => pure []
  | fuel + 1, apart, x, y =>
    searchAll x.fields fun (key, ms) =>
      searchAll ms fun a =>
        searchAll (y.under key) fun b => compareFields s d fuel apart key a b

def compareWithFragment (s : Schema σ) (d : Document) :
    Nat → (apart : Bool) → Content σ → Text → Search
  | 0, _, _, _ => pure []
  | fuel + 1, apart, x, n => do
    if Compared.covers (← get).contents (x.id, n) apart then pure []
    else
      modify fun c => { c with contents := ((x.id, n), apart) :: c.contents }
      match d.fragment? n with
      | none => pure []
      | some f =>
        let y := Content.ofFragment s f
        if x.id = y.id then pure []
        else
          let direct ← compareContents s d fuel apart x y
          let more ← searchAll y.fragments fun m => do
            if Compared.covers (← get).fragments (Compared.pair m n) apart then pure []
            else
              modify fun c => { c with fragments := (Compared.pair m n, apart) :: c.fragments }
              compareWithFragment s d fuel apart x m
          return direct ++ more

def compareFragments (s : Schema σ) (d : Document) : Nat → (apart : Bool) → Text → Text → Search
  | 0, _, _, _ => pure []
  | fuel + 1, apart, m, n => do
    if m = n ∨ Compared.covers (← get).fragments (Compared.pair m n) apart then pure []
    else
      modify fun c => { c with fragments := (Compared.pair m n, apart) :: c.fragments }
      match d.fragment? m, d.fragment? n with
      | some f, some g =>
        let x := Content.ofFragment s f
        let y := Content.ofFragment s g
        let direct ← compareContents s d fuel apart x y
        let second ← searchAll y.fragments fun k => compareFragments s d fuel apart m k
        let first ← searchAll x.fragments fun k => compareFragments s d fuel apart k n
        return direct ++ second ++ first
      | _, _ => pure []

end

def compareWithin (s : Schema σ) (d : Document) (fuel : Nat) (x : Content σ) : Search := do
  let direct ← searchAll x.fields fun (key, ms) =>
    searchAll (pairs ms) fun (a, b) => compareFields s d fuel false key a b
  let more ← searchAll (List.range x.fragments.length) fun i =>
    match x.fragments.drop i with
    | [] => pure []
    | m :: rest => do
      let own ← compareWithFragment s d fuel false x m
      let others ← searchAll rest fun n => compareFragments s d fuel false m n
      return own ++ others
  return direct ++ more

/-- The conflicts at each site, in order; the later ones know what was compared before. -/
def overlaps (s : Schema σ) (d : Document) (walk : List (Site σ)) : List (List Fault) :=
  let fuel := 8 * (walk.length + 2) * (walk.length + 2)
  let search : List (Site σ) → StateM Compared (List (List Fault)) := fun sites =>
    sites.mapM fun
      | .selections parent brace xs => do
        let found ← compareWithin s d fuel (.of s (parent.map .object) brace xs)
        return found.map Conflict.fault
      | _ => pure []
  ((search walk).run ⟨[], []⟩).1

end QueryGateway.Graph.Validation
