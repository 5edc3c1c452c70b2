import QueryGateway.Graph.Validation.Walk

/-!
# What a document refers to

Which fragments selections are put together from, and where variables are used, directly and through
fragments. A fragment counts once, however often it is put in.

Where a rule reports several findings their order is that in which selections are searched: the
spreads of a level first, then its inner selections from the last to the first.
-/

namespace QueryGateway.Graph.Validation

/-! ## Spreads -/

mutual

def levelSpreads : List Selection → List Spread
  | [] => []
  | .spread p :: rest => p :: levelSpreads rest
  | _ :: rest => levelSpreads rest

def innerSpreads : List Selection → List Spread
  | [] => []
  | x :: rest => innerSpreads rest ++ belowSpreads x

def belowSpreads : Selection → List Spread
  | .field _ body => levelSpreads body ++ innerSpreads body
  | .inline _ body => levelSpreads body ++ innerSpreads body
  | .spread _ => []

end

def spreads (xs : List Selection) : List Spread := levelSpreads xs ++ innerSpreads xs

/-- The fragments that selections are put together from. `todo` holds the selections to be searched,
the last of them first; `seen` holds the names that were met. Every round takes the selections of an
operation or of a fragment, so the number of fragments and one is enough fuel. -/
def referenced (d : Document) : Nat → List (List Selection) → List Text → List Fragment
  | 0, _, _ => []
  | _ + 1, [], _ => []
  | fuel + 1, body :: todo, seen =>
    let fresh := ((spreads body).map fun p => p.name.text).foldl
      (fun names n => if seen.contains n || names.contains n then names else names ++ [n])
      ([] : List Text)
    let found := fresh.filterMap d.fragment?
    found ++ referenced d fuel ((found.map (·.selections)).reverse ++ todo) (seen ++ fresh)

def fragmentsOf (d : Document) (o : Operation) : List Fragment :=
  referenced d (d.fragments.length + 1) [o.selections] []

/-! ## Variables -/

/-- A place where a variable is used, with the type that is expected there if that is known, and
whether there is a value to fall back on. -/
structure Usage where
  name : Text
  start : Nat
  type : Option TypeUse
  hasDefault : Bool

mutual

def literalUsages (type : Option TypeUse) (hasDefault : Bool) : Literal → List Usage
  | .variable start name => [⟨name, start, type, hasDefault⟩]
  | .list _ items =>
    itemUsages (type.map fun t => match t.nullable with | .list item => item | t => t) items
  | .object _ fields => fieldUsages fields
  | _ => []

def itemUsages (type : Option TypeUse) : List Literal → List Usage
  | [] => []
  | l :: rest => literalUsages type false l ++ itemUsages type rest

def fieldUsages : List (Name × Literal) → List Usage
  | [] => []
  | (_, l) :: rest => literalUsages none false l ++ fieldUsages rest

end

variable {σ : Type}

def argumentUsages (definitions : List ArgumentDef) (args : List Argument) : List Usage :=
  args.flatMap fun a =>
    let definition := argument? definitions a.name.text
    literalUsages (definition.map (·.type)) ((definition.bind (·.default?)).isSome) a.value

def directiveUsages (ds : List Directive) : List Usage :=
  ds.flatMap fun d =>
    argumentUsages (((directive? d.name.text).map (·.arguments)).getD []) d.arguments

mutual

def selectionUsages (s : Schema σ) (type : Option (TypeDef σ)) : Selection → List Usage
  | .field f body =>
    let site := fieldSite s (parentOf type) f body
    argumentUsages ((site.definition.map (·.arguments)).getD []) f.arguments ++
      directiveUsages f.directives ++ selectionsUsages s (site.selected s) body
  | .spread p => directiveUsages p.directives
  | .inline i body =>
    directiveUsages i.directives ++ selectionsUsages s (inlineType s type i) body

def selectionsUsages (s : Schema σ) (type : Option (TypeDef σ)) : List Selection → List Usage
  | [] => []
  | x :: rest => selectionUsages s type x ++ selectionsUsages s type rest

end

def usagesOf (s : Schema σ) (d : Document) (o : Operation) : List Usage :=
  directiveUsages o.directives ++ selectionsUsages s (rootType s o.kind) o.selections ++
    (fragmentsOf d o).flatMap fun f =>
      directiveUsages f.directives ++ selectionsUsages s (s.type? f.condition.text) f.selections

end QueryGateway.Graph.Validation
