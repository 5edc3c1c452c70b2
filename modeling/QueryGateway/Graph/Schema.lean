import QueryGateway.Failure.Basic
import QueryGateway.Graph.Document

/-!
# Schemas

What can be asked: object types with fields, each field with arguments, a type and a resolver, and
scalars and enumerations at the leaves. All operations are queries; one type is at their root.

A resolver is given the object that its field belongs to and the arguments. It may read and change a
state, and it ends with a value or a failure. The state is whatever a deployment shares between its
resolvers.
-/

namespace QueryGateway.Graph

inductive TypeUse where
  | named (name : Text)
  | list (item : TypeUse)
  | required (inner : TypeUse)
deriving DecidableEq, Repr

namespace TypeUse

def shown : TypeUse → Text
  | .named name => name
  | .list item => "[" ++ item.shown ++ "]"
  | .required inner => inner.shown ++ "!"

def name : TypeUse → Text
  | .named name => name
  | .list item => item.name
  | .required inner => inner.name

def nullable : TypeUse → TypeUse
  | .required inner => inner
  | t => t

def isRequired : TypeUse → Bool
  | .required _ => true
  | _ => false

def ofRef : TypeRef → TypeUse
  | .named name => .named name.text
  | .list _ item => .list (ofRef item)
  | .required inner => .required (ofRef inner)

def isPartOf : TypeUse → TypeUse → Bool
  | .required s, .required t => isPartOf s t
  | .required s, t => isPartOf s t
  | .list s, .list t => isPartOf s t
  | .named a, .named b => a = b
  | _, _ => false

end TypeUse

inductive Scalar where
  | string
  | boolean
  | id
deriving DecidableEq, Repr

def Scalar.name : Scalar → Text
  | .string => "String"
  | .boolean => "Boolean"
  | .id => "ID"

structure ArgumentDef where
  name : Text
  type : TypeUse
  default? : Option Value
deriving Repr

def ArgumentDef.isRequired (a : ArgumentDef) : Bool := a.type.isRequired && a.default?.isNone

/-- What a field does: from the object it belongs to and its arguments. -/
abbrev Resolver (σ : Type) := Value → Members → σ → Except Failure Value × σ

structure FieldDef (σ : Type) where
  name : Text
  arguments : List ArgumentDef
  type : TypeUse
  resolve : Resolver σ

structure ObjectDef (σ : Type) where
  name : Text
  fields : List (FieldDef σ)

def ObjectDef.field? {σ : Type} (o : ObjectDef σ) (name : Text) : Option (FieldDef σ) :=
  o.fields.find? fun f => f.name = name

structure EnumDef where
  name : Text
  values : List Text
deriving DecidableEq, Repr

/-- What can be asked. -/
structure Schema (σ : Type) where
  root : ObjectDef σ
  objects : List (ObjectDef σ)
  enums : List EnumDef := []
  unlisted : List (FieldDef σ) := []

inductive TypeDef (σ : Type) where
  | object (o : ObjectDef σ)
  | scalar (s : Scalar)
  | enum (e : EnumDef)

def TypeDef.name {σ : Type} : TypeDef σ → Text
  | .object o => o.name
  | .scalar s => s.name
  | .enum e => e.name

def TypeDef.object? {σ : Type} : TypeDef σ → Option (ObjectDef σ)
  | .object o => some o
  | _ => none

/-- The field that every object has: the name of its type. -/
def typenameField {σ : Type} (type : Text) : FieldDef σ where
  name := "__typename"
  arguments := []
  type := .required (.named Scalar.string.name)
  resolve _ _ s := (.ok (.text type), s)

def FieldDef.member {σ : Type} (name : Text) (type : TypeUse) : FieldDef σ where
  name := name
  arguments := []
  type := type
  resolve v _ s :=
    match v with
    | .map members =>
      (.ok (((members.find? fun m => m.1 == .text name).map (·.2)).getD .null), s)
    | _ => (.ok .null, s)

namespace Schema

variable {σ : Type}

def allObjects (s : Schema σ) : List (ObjectDef σ) := s.root :: s.objects

def usedNames (s : Schema σ) : List Text :=
  s.allObjects.flatMap fun o => o.fields.flatMap fun f =>
    f.type.name :: f.arguments.map fun a => a.type.name

/-- The scalars of a schema: texts and truth values, which the language itself uses, and others if
they are used. -/
def scalars (s : Schema σ) : List Scalar :=
  [Scalar.id, .string, .boolean].filter fun t => t ≠ .id || s.usedNames.contains t.name

def types (s : Schema σ) : List (TypeDef σ) :=
  s.allObjects.map .object ++ s.scalars.map .scalar ++ s.enums.map .enum

def type? (s : Schema σ) (name : Text) : Option (TypeDef σ) := s.types.find? fun t => t.name = name

def object? (s : Schema σ) (name : Text) : Option (ObjectDef σ) := (s.type? name).bind (·.object?)

def use? (s : Schema σ) (t : TypeRef) : Option TypeUse :=
  (s.type? t.name.text).map fun _ => .ofRef t

def field? (s : Schema σ) (o : ObjectDef σ) (name : Text) : Option (FieldDef σ) :=
  if name = "__typename" then some (typenameField o.name)
  else
    match o.field? name with
    | some f => some f
    | none => if o.name = s.root.name then s.unlisted.find? fun f => f.name = name else none

end Schema

/-! ## Directives -/

inductive Place where
  | query
  | mutation
  | subscription
  | field
  | fragmentDefinition
  | fragmentSpread
  | inlineFragment
  | variableDefinition
  | schema
  | scalar
  | object
  | fieldDefinition
  | argumentDefinition
  | interface
  | union
  | enum
  | enumValue
  | inputObject
  | inputFieldDefinition
deriving DecidableEq, Repr

def Place.name : Place → Text
  | .query => "QUERY"
  | .mutation => "MUTATION"
  | .subscription => "SUBSCRIPTION"
  | .field => "FIELD"
  | .fragmentDefinition => "FRAGMENT_DEFINITION"
  | .fragmentSpread => "FRAGMENT_SPREAD"
  | .inlineFragment => "INLINE_FRAGMENT"
  | .variableDefinition => "VARIABLE_DEFINITION"
  | .schema => "SCHEMA"
  | .scalar => "SCALAR"
  | .object => "OBJECT"
  | .fieldDefinition => "FIELD_DEFINITION"
  | .argumentDefinition => "ARGUMENT_DEFINITION"
  | .interface => "INTERFACE"
  | .union => "UNION"
  | .enum => "ENUM"
  | .enumValue => "ENUM_VALUE"
  | .inputObject => "INPUT_OBJECT"
  | .inputFieldDefinition => "INPUT_FIELD_DEFINITION"

def Place.all : List Place :=
  [.query, .mutation, .subscription, .field, .fragmentDefinition, .fragmentSpread, .inlineFragment,
    .variableDefinition, .schema, .scalar, .object, .fieldDefinition, .argumentDefinition, .interface,
    .union, .enum, .enumValue, .inputObject, .inputFieldDefinition]

def OperationKind.place : OperationKind → Place
  | .query => .query
  | .mutation => .mutation
  | .subscription => .subscription

structure DirectiveDef where
  name : Text
  arguments : List ArgumentDef
  places : List Place
deriving Repr

def ifArgument : ArgumentDef := ⟨"if", .required (.named Scalar.boolean.name), none⟩

def choicePlaces : List Place := [.field, .fragmentSpread, .inlineFragment]

/-- The directives that the language knows. The last three stand in schemas only. -/
def knownDirectives : List DirectiveDef :=
  [⟨"include", [ifArgument], choicePlaces⟩, ⟨"skip", [ifArgument], choicePlaces⟩,
    ⟨"deprecated", [⟨"reason", .named Scalar.string.name, some (.text "No longer supported")⟩],
      [.fieldDefinition, .argumentDefinition, .inputFieldDefinition, .enumValue]⟩,
    ⟨"specifiedBy", [⟨"url", .required (.named Scalar.string.name), none⟩], [.scalar]⟩,
    ⟨"oneOf", [], [.inputObject]⟩]

def directive? (name : Text) : Option DirectiveDef := knownDirectives.find? fun d => d.name = name

end QueryGateway.Graph
