import QueryGateway.Graph.Schema

/-!
# A walk through a document

Rules about documents look at one site at a time. The walk goes through a document in the order in
which it is written and passes a site at the beginning of every part, and for some parts one more at
their end. A site knows what the schema says about the part: the type it selects from, the
definition of a field, the type that a value should have.
-/

namespace QueryGateway.Graph.Validation

structure FieldSite (σ : Type) where
  parent : Option (ObjectDef σ)
  definition : Option (FieldDef σ)
  field : Field
  selections : List Selection

inductive Site (σ : Type) where
  | document
  | operation (o : Operation)
  | operationEnd (o : Operation)
  | fragment (f : Fragment)
  | variable (v : VariableDefinition)
  | typeName (n : Name)
  | selections (parent : Option (ObjectDef σ)) (brace : Nat) (selections : List Selection)
  | field (f : FieldSite σ)
  | fieldEnd (f : FieldSite σ)
  | argument (f : FieldSite σ) (definition : Option ArgumentDef) (a : Argument)
  | value (type : Option TypeUse) (l : Literal)
  | spread (parent : Option (ObjectDef σ)) (s : Spread)
  | inline (parent : Option (ObjectDef σ)) (type : Option (TypeDef σ)) (i : Inline)
  | directive (place : Place) (d : Directive)
  | directiveEnd (d : Directive)
  | documentEnd

variable {σ : Type}

def argument? (definitions : List ArgumentDef) (name : Text) : Option ArgumentDef :=
  definitions.find? fun a => a.name = name

def directiveSites (place : Place) (d : Directive) : List (Site σ) :=
  let definitions := ((directive? d.name.text).map (·.arguments)).getD []
  .directive place d ::
    d.arguments.map (fun a => .value ((argument? definitions a.name.text).map (·.type)) a.value) ++
    [.directiveEnd d]

def directivesSites (place : Place) (ds : List Directive) : List (Site σ) :=
  ds.flatMap (directiveSites place)

def argumentSites (f : FieldSite σ) : List (Site σ) :=
  let definitions := (f.definition.map (·.arguments)).getD []
  f.field.arguments.flatMap fun a =>
    let definition := argument? definitions a.name.text
    [.argument f definition a, .value (definition.map (·.type)) a.value]

def parentOf (type : Option (TypeDef σ)) : Option (ObjectDef σ) := type.bind (·.object?)

def fieldSite (s : Schema σ) (parent : Option (ObjectDef σ)) (f : Field)
    (selections : List Selection) : FieldSite σ :=
  ⟨parent, parent.bind fun o => s.field? o f.name.text, f, selections⟩

def FieldSite.selected (s : Schema σ) (f : FieldSite σ) : Option (TypeDef σ) :=
  f.definition.bind fun d => s.type? d.type.name

def inlineType (s : Schema σ) (type : Option (TypeDef σ)) (i : Inline) : Option (TypeDef σ) :=
  match i.condition with
  | some n => s.type? n.text
  | none => type

mutual

def selectionSites (s : Schema σ) (type : Option (TypeDef σ)) : Selection → List (Site σ)
  | .field f body =>
    let site := fieldSite s (parentOf type) f body
    .field site :: argumentSites site ++ directivesSites .field f.directives ++
      (match f.brace with
        | some brace =>
          .selections (parentOf (site.selected s)) brace body ::
            selectionsSites s (site.selected s) body
        | none => []) ++
      [.fieldEnd site]
  | .spread p => .spread (parentOf type) p :: directivesSites .fragmentSpread p.directives
  | .inline i body =>
    let inner := inlineType s type i
    .inline (parentOf type) inner i :: (i.condition.toList.map .typeName) ++
      directivesSites .inlineFragment i.directives ++
      .selections (parentOf inner) i.brace body :: selectionsSites s inner body

def selectionsSites (s : Schema σ) (type : Option (TypeDef σ)) : List Selection → List (Site σ)
  | [] => []
  | x :: rest => selectionSites s type x ++ selectionsSites s type rest

end

def variableSites (s : Schema σ) (v : VariableDefinition) : List (Site σ) :=
  .variable v :: .typeName v.type.name ::
    (v.default?.toList.map fun l =>
      .value ((s.use? v.type).filter fun t => ((s.type? t.name).bind (·.object?)).isNone) l) ++
    directivesSites .variableDefinition v.directives

def rootType (s : Schema σ) (kind : OperationKind) : Option (TypeDef σ) :=
  match kind with
  | .query => some (.object s.root)
  | _ => none

def definitionSites (s : Schema σ) : Definition → List (Site σ)
  | .operation o =>
    let type := rootType s o.kind
    .operation o :: o.variableDefinitions.flatMap (variableSites s) ++
      directivesSites o.kind.place o.directives ++
      .selections (parentOf type) o.brace o.selections :: selectionsSites s type o.selections ++
      [.operationEnd o]
  | .fragment f =>
    let type := s.type? f.condition.text
    .fragment f :: .typeName f.condition :: directivesSites .fragmentDefinition f.directives ++
      .selections (parentOf type) f.brace f.selections :: selectionsSites s type f.selections

def sites (s : Schema σ) (d : Document) : List (Site σ) :=
  .document :: d.definitions.flatMap (definitionSites s) ++ [.documentEnd]

end QueryGateway.Graph.Validation
