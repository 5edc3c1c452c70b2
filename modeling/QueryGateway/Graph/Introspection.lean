import QueryGateway.Graph.Schema

/-!
# A schema as an answer

A schema can be asked about itself: the root of every query has two more fields, `__schema` and
`__type`, which it does not list. What they give is made of objects of a few types of their own, and
these types are part of the schema that is told about.

A type stands in an answer as a reference, so that types may refer to each other in circles: a named
type as its name, a list as a list of one item, a type that is required as a tuple of one item. What
is asked about a type is looked up when it is asked.
-/

namespace QueryGateway.Graph

variable {σ : Type}

/-! ## References to types -/

def TypeUse.reference : TypeUse → Value
  | .named name => .text name
  | .list item => .list [item.reference]
  | .required inner => .tuple [inner.reference]

def TypeUse.ofReference? : Value → Option TypeUse
  | .text name => some (.named name)
  | .list [item] => (ofReference? item).map .list
  | .tuple [inner] => (ofReference? inner).map .required
  | _ => none

/-! ## What is said about the parts of the language -/

def descriptions : List (String × String) := [
  ("String", "The `String` scalar type represents textual data, represented as UTF-8 character sequences. The String type is most often used by GraphQL to represent free-form human-readable text."),
  ("Boolean", "The `Boolean` scalar type represents `true` or `false`."),
  ("ID", "The `ID` scalar type represents a unique identifier, often used to refetch an object or as key for a cache. The ID type appears in a JSON response as a String; however, it is not intended to be human-readable. When expected as an input type, any string (such as `\"4\"`) or integer (such as `4`) input value will be accepted as an ID."),
  ("__Schema", "A GraphQL Schema defines the capabilities of a GraphQL server. It exposes all available types and directives on the server, as well as the entry points for query, mutation, and subscription operations."),
  ("__Directive", "A Directive provides a way to describe alternate runtime execution and type validation behavior in a GraphQL document.\n\nIn some cases, you need to provide options to alter GraphQL's execution behavior in ways field arguments will not suffice, such as conditionally including or skipping a field. Directives provide this by describing additional information to the executor."),
  ("__DirectiveLocation", "A Directive can be adjacent to many parts of the GraphQL language, a __DirectiveLocation describes one such possible adjacencies."),
  ("__Type", "The fundamental unit of any GraphQL Schema is the type. There are many kinds of types in GraphQL as represented by the `__TypeKind` enum.\n\nDepending on the kind of a type, certain fields describe information about that type. Scalar types provide no information beyond a name, description and optional `specifiedByURL`, while Enum types provide their values. Object and Interface types provide the fields they describe. Abstract types, Union and Interface, provide the Object types possible at runtime. List and NonNull types compose other types."),
  ("__Field", "Object and Interface types are described by a list of Fields, each of which has a name, potentially a list of arguments, and a return type."),
  ("__InputValue", "Arguments provided to Fields or Directives and the input fields of an InputObject are represented as Input Values which describe their type and optionally a default value."),
  ("__EnumValue", "One possible value for a given Enum. Enum values are unique values, not a placeholder for a string or numeric value. However an Enum value is returned in a JSON response as a string."),
  ("__TypeKind", "An enum describing what kind of type a given `__Type` is."),
  ("SCALAR", "Indicates this type is a scalar."),
  ("OBJECT", "Indicates this type is an object. `fields` and `interfaces` are valid fields."),
  ("INTERFACE", "Indicates this type is an interface. `fields`, `interfaces`, and `possibleTypes` are valid fields."),
  ("UNION", "Indicates this type is a union. `possibleTypes` is a valid field."),
  ("ENUM", "Indicates this type is an enum. `enumValues` is a valid field."),
  ("INPUT_OBJECT", "Indicates this type is an input object. `inputFields` is a valid field."),
  ("LIST", "Indicates this type is a list. `ofType` is a valid field."),
  ("NON_NULL", "Indicates this type is a non-null. `ofType` is a valid field."),
  ("@include", "Directs the executor to include this field or fragment only when the `if` argument is true."),
  ("@skip", "Directs the executor to skip this field or fragment when the `if` argument is true."),
  ("@deprecated", "Marks an element of a GraphQL schema as no longer supported."),
  ("@specifiedBy", "Exposes a URL that specifies the behavior of this scalar."),
  ("@oneOf", "Indicates exactly one field must be supplied and this field must not be `null`."),
  ("@include.if", "Included when true."),
  ("@skip.if", "Skipped when true."),
  ("@specifiedBy.url", "The URL that specifies the behavior of this scalar."),
  ("__Schema.types", "A list of all types supported by this server."),
  ("__Schema.queryType", "The type that query operations will be rooted at."),
  ("__Schema.mutationType", "If this server supports mutation, the type that mutation operations will be rooted at."),
  ("__Schema.subscriptionType", "If this server supports subscription, the type that subscription operations will be rooted at."),
  ("__Schema.directives", "A list of all directives supported by this server."),
  ("__InputValue.defaultValue", "A GraphQL-formatted string representing the default value for this input value."),
  ("QUERY", "Location adjacent to a query operation."),
  ("MUTATION", "Location adjacent to a mutation operation."),
  ("SUBSCRIPTION", "Location adjacent to a subscription operation."),
  ("FIELD", "Location adjacent to a field."),
  ("FRAGMENT_DEFINITION", "Location adjacent to a fragment definition."),
  ("FRAGMENT_SPREAD", "Location adjacent to a fragment spread."),
  ("INLINE_FRAGMENT", "Location adjacent to an inline fragment."),
  ("VARIABLE_DEFINITION", "Location adjacent to a variable definition."),
  ("SCHEMA", "Location adjacent to a schema definition."),
  ("__DirectiveLocation.SCALAR", "Location adjacent to a scalar definition."),
  ("__DirectiveLocation.OBJECT", "Location adjacent to an object type definition."),
  ("FIELD_DEFINITION", "Location adjacent to a field definition."),
  ("ARGUMENT_DEFINITION", "Location adjacent to an argument definition."),
  ("__DirectiveLocation.INTERFACE", "Location adjacent to an interface definition."),
  ("__DirectiveLocation.UNION", "Location adjacent to a union definition."),
  ("__DirectiveLocation.ENUM", "Location adjacent to an enum definition."),
  ("ENUM_VALUE", "Location adjacent to an enum value definition."),
  ("__DirectiveLocation.INPUT_OBJECT", "Location adjacent to an input object type definition."),
  ("INPUT_FIELD_DEFINITION", "Location adjacent to an input object field definition.")]

def description (names : List Text) : Value :=
  match names.findSome? fun n => descriptions.find? fun d => Text.ofString d.1 = n with
  | some (_, t) => .text (Text.ofString t)
  | none => .null

/-! ## The parts of a schema as values -/

def current : Members := [("isDeprecated", .bool false), ("deprecationReason", .null)]

def defaultShown : Option Value → Value
  | some (.text t) => .text (("\"" : Text) ++ t ++ "\"")
  | some (.bool b) => .text (if b then "true" else "false")
  | _ => .null

/-- An argument as a value. `owner` is the name of what takes it. -/
def ArgumentDef.asValue (owner : Text) (a : ArgumentDef) : Value :=
  Value.object <|
    ("name", .text a.name) :: ("description", description [owner ++ "." ++ a.name]) ::
      ("type", a.type.reference) :: ("defaultValue", defaultShown a.default?) :: current

def FieldDef.asValue (owner : Text) (f : FieldDef σ) : Value :=
  let name := owner ++ "." ++ f.name
  Value.object <|
    ("name", .text f.name) :: ("description", description [name]) ::
      ("args", .list (f.arguments.map (ArgumentDef.asValue name))) ::
      ("type", f.type.reference) :: current

def EnumDef.nameAsValue (e : EnumDef) (name : Text) : Value :=
  Value.object <|
    ("name", .text name) :: ("description", description [e.name ++ "." ++ name, name]) :: current

def DirectiveDef.asValue (d : DirectiveDef) : Value :=
  let name : Text := "@" ++ d.name
  Value.object [("name", .text d.name), ("description", description [name]),
    ("isRepeatable", .bool false), ("locations", .list (d.places.map fun p => .text p.name)),
    ("args", .list (d.arguments.map (ArgumentDef.asValue name)))]

def TypeDef.kindName : TypeDef σ → Text
  | .object _ => "OBJECT"
  | .scalar _ => "SCALAR"
  | .enum _ => "ENUM"

def TypeDef.members (t : TypeDef σ) : Members :=
  ("kind", .text t.kindName) :: ("name", .text t.name) :: ("description", description [t.name]) ::
    match t with
    | .object o =>
      [("fields", .list (o.fields.map (FieldDef.asValue o.name))), ("interfaces", .list [])]
    | .enum e => [("enumValues", .list (e.values.map e.nameAsValue))]
    | .scalar _ => []

def Schema.membersOf (s : Schema σ) : TypeUse → Members
  | .named name => ((s.type? name).map TypeDef.members).getD []
  | .list item => [("kind", .text "LIST"), ("ofType", item.reference)]
  | .required inner => [("kind", .text "NON_NULL"), ("ofType", inner.reference)]

/-! ## The types of answers -/

def requiredNamed (name : Text) : TypeUse := .required (.named name)

def requiredList (name : Text) : TypeUse := .required (.list (requiredNamed name))

def listOf (name : Text) : TypeUse := .list (requiredNamed name)

/-- The argument that asks for parts that are out of date as well. There are none. -/
def includeDeprecated : ArgumentDef :=
  ⟨"includeDeprecated", .named Scalar.boolean.name, some (.bool false)⟩

def FieldDef.withDeprecated (f : FieldDef σ) : FieldDef σ := { f with arguments := [includeDeprecated] }

def optionalTextField (name : Text) : FieldDef σ := .member name (.named Scalar.string.name)

def textField (name : Text) : FieldDef σ := .member name (requiredNamed Scalar.string.name)

def flagField (name : Text) : FieldDef σ := .member name (requiredNamed Scalar.boolean.name)

def deprecationFields : List (FieldDef σ) := [flagField "isDeprecated", optionalTextField "deprecationReason"]

def typeField (s : Schema σ) (f : FieldDef σ) : FieldDef σ :=
  { f with
    resolve := fun v args state =>
      f.resolve (Value.object (((TypeUse.ofReference? v).map s.membersOf).getD [])) args state }

def answerTypes (s : Schema σ) : List (ObjectDef σ) :=
  [⟨"__Schema", [optionalTextField "description", .member "types" (requiredList "__Type"),
      .member "queryType" (requiredNamed "__Type"), .member "mutationType" (.named "__Type"),
      .member "subscriptionType" (.named "__Type"),
      .member "directives" (requiredList "__Directive")]⟩,
    ⟨"__Type", [.member "kind" (requiredNamed "__TypeKind"), optionalTextField "name",
        optionalTextField "description", optionalTextField "specifiedByURL",
        (FieldDef.member "fields" (listOf "__Field")).withDeprecated,
        .member "interfaces" (listOf "__Type"), .member "possibleTypes" (listOf "__Type"),
        (FieldDef.member "enumValues" (listOf "__EnumValue")).withDeprecated,
        (FieldDef.member "inputFields" (listOf "__InputValue")).withDeprecated,
        .member "ofType" (.named "__Type"),
        .member "isOneOf" (.named Scalar.boolean.name)].map (typeField s)⟩,
    ⟨"__Field", [textField "name", optionalTextField "description",
      (FieldDef.member "args" (requiredList "__InputValue")).withDeprecated,
      .member "type" (requiredNamed "__Type")] ++ deprecationFields⟩,
    ⟨"__InputValue", [textField "name", optionalTextField "description",
      .member "type" (requiredNamed "__Type"), optionalTextField "defaultValue"] ++ deprecationFields⟩,
    ⟨"__EnumValue", [textField "name", optionalTextField "description"] ++ deprecationFields⟩,
    ⟨"__Directive", [textField "name", optionalTextField "description", flagField "isRepeatable",
      .member "locations" (requiredList "__DirectiveLocation"),
      (FieldDef.member "args" (requiredList "__InputValue")).withDeprecated]⟩]

def answerEnums : List EnumDef :=
  [⟨"__TypeKind",
      ["SCALAR", "OBJECT", "INTERFACE", "UNION", "ENUM", "INPUT_OBJECT", "LIST", "NON_NULL"]⟩,
    ⟨"__DirectiveLocation", Place.all.map Place.name⟩]

/-! ## The fields at the root -/

def TypeDef.references : TypeDef σ → List Text
  | .object o => o.fields.flatMap fun f => f.type.name :: f.arguments.map fun a => a.type.name
  | _ => []

/-- Types in the order in which they are met from given ones on. Every round takes a name from the
list, and a type adds names only when it is met first, so the number of all references is enough
fuel. -/
def Schema.meet (s : Schema σ) : Nat → List Text → List Text → List Text
  | 0, _, seen => seen
  | _ + 1, [], seen => seen
  | fuel + 1, name :: todo, seen =>
    if seen.contains name then meet s fuel todo seen
    else
      match s.type? name with
      | some t => meet s fuel (t.references ++ todo) (seen ++ [name])
      | none => meet s fuel todo seen

/-- The names of all types, in the order in which they are met: from the root, from the directives,
and from the type of answers. -/
def Schema.typeNames (s : Schema σ) : List Text :=
  let ofDirectives : List Text :=
    knownDirectives.flatMap fun d => d.arguments.map fun a => a.type.name
  let first : List Text := s.root.name :: (ofDirectives ++ [("__Schema" : Text)])
  let references := (s.types.flatMap TypeDef.references).length
  s.meet (first.length + references + 1) first []

def Schema.asValue (s : Schema σ) : Value :=
  Value.object [("types", .list (s.typeNames.map .text)), ("queryType", .text s.root.name),
    ("directives", .list (knownDirectives.map DirectiveDef.asValue))]

def schemaField (s : Schema σ) : FieldDef σ where
  name := "__schema"
  arguments := []
  type := requiredNamed "__Schema"
  resolve _ _ state := (.ok s.asValue, state)

def namedTypeField (s : Schema σ) : FieldDef σ where
  name := "__type"
  arguments := [⟨"name", requiredNamed Scalar.string.name, none⟩]
  type := .named "__Type"
  resolve _ args state :=
    (.ok (match args.get? "name" with
      | some (.text name) => if (s.type? name).isSome then .text name else .null
      | _ => .null), state)

def Schema.withAnswers (s known : Schema σ) : Schema σ :=
  { s with objects := s.objects ++ answerTypes known, enums := s.enums ++ answerEnums }

def Schema.reflective (s : Schema σ) : Schema σ :=
  let known := s.withAnswers (s.withAnswers s)
  { known with unlisted := [schemaField known, namedTypeField known] }

end QueryGateway.Graph
