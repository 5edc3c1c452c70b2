import QueryGateway.Graph.Validation.Walk

/-!
# Literals of a type

What a literal may be where a type is expected. A variable is left to the rules about variables.
-/

namespace QueryGateway.Graph.Validation

variable {σ : Type}

def nullSentence (type : TypeUse) : Text :=
  "Expected value of non-null type '" ++ type.shown ++ "' not to be None."

def isLiteralOf : Scalar → Literal → Bool
  | .string, .string .. => true
  | .boolean, .bool .. => true
  | .id, .string .. => true
  | .id, .int .. => true
  | _, _ => false

def scalarSentence : Scalar → Text → Text
  | .string, shown => "String cannot represent a non string value: " ++ shown
  | .boolean, shown => "Boolean cannot represent a non boolean value: " ++ shown
  | .id, shown => "ID cannot represent a non-string and non-integer value: " ++ shown

def enumFaults (e : EnumDef) (l : Literal) : List (Text × Nat) :=
  match l with
  | .enum start name =>
    if e.values.contains name then []
    else [("Value '" ++ name ++ "' does not exist in '" ++ e.name ++ "' enum.", start)]
  | l => [("Enum '" ++ e.name ++ "' cannot represent non-enum value: " ++ l.shown ++ ".", l.start)]

def namedFaults (s : Schema σ) (name : Text) (l : Literal) : List (Text × Nat) :=
  match s.type? name with
  | some (.scalar t) =>
    if isLiteralOf t l then [] else [(scalarSentence t l.shown, l.start)]
  | some (.enum e) => enumFaults e l
  | _ => []

mutual

def literalFaults (s : Schema σ) : TypeUse → Literal → List (Text × Nat)
  | _, .variable .. => []
  | .required type, .null start => [(nullSentence (.required type), start)]
  | .required type, l => literalFaults s type l
  | _, .null _ => []
  | .list type, .list _ items => itemFaults s type items
  | .list type, l => literalFaults s type l
  | .named name, l => namedFaults s name l
termination_by type l => (sizeOf l, sizeOf type)

def itemFaults (s : Schema σ) (type : TypeUse) : List Literal → List (Text × Nat)
  | [] => []
  | l :: rest => literalFaults s type l ++ itemFaults s type rest
termination_by items => (sizeOf items, sizeOf type + 1)

end

end QueryGateway.Graph.Validation
