/-!
# Errors of declarations and of the shape of values

A declaration that fails says which name it clashed with or which rule it broke. A value that does
not fit a field says where it stands and what was expected there.
-/

namespace TypedQuery

/-- What a name was registered as. -/
inductive RegistrationKind where
  | type
  | typename
  | queryRoot
  | mutationRoot
  | implementer
deriving DecidableEq, Repr

/-- The name of a kind of registration. -/
def RegistrationKind.describe : RegistrationKind → String
  | type => "type"
  | typename => "typename"
  | queryRoot => "query root"
  | mutationRoot => "mutation root"
  | implementer => "implementer"

/-- A part of a field that is bound once. -/
inductive FieldPart where
  | name
  | type
deriving DecidableEq, Repr

/-- The name of a part. -/
def FieldPart.describe : FieldPart → String
  | name => "name"
  | type => "type"

/-- Why a declaration is refused. -/
inductive DeclarationError where
  | duplicateRegistration (kind : RegistrationKind) (name : String)
  | fieldAlreadyBound (field : String) (part : FieldPart)
  | duplicateField (typeName field : String)
  | reservedFieldName (typeName field : String)
  | unknownType (name : String)
  /-- The types above this one go round in a circle. -/
  | endlessAncestry (name : String)
deriving DecidableEq, Repr

/-- The wording of a declaration error. -/
def DeclarationError.message : DeclarationError → String
  | duplicateRegistration kind name =>
    "Duplicate registration of " ++ kind.describe ++ " '" ++ name ++ "'"
  | fieldAlreadyBound field part =>
    "Field '" ++ field ++ "' already has its " ++ part.describe ++ " bound"
  | duplicateField typeName field =>
    "Type '" ++ typeName ++ "' declares field '" ++ field ++ "' more than once"
  | reservedFieldName typeName field =>
    "Type '" ++ typeName ++ "' cannot declare the reserved field '" ++ field ++ "'"
  | unknownType name => "Type '" ++ name ++ "' is not declared"
  | endlessAncestry name => "Type '" ++ name ++ "' descends from itself"

/-- How a value fails to fit; `got` is the kind of the value. -/
inductive ShapeProblem where
  | listExpected (got : String)
  | objectExpected (got : String)
  | stringExpected (got : String)
  /-- An object for a field that takes none. -/
  | objectRefused
deriving DecidableEq, Repr

/-- The wording of a shape problem. -/
def ShapeProblem.describe : ShapeProblem → String
  | listExpected got => "expected a list, got " ++ got
  | objectExpected got => "expected an object, got " ++ got
  | stringExpected got => "expected a string, got " ++ got
  | objectRefused =>
    "got an object, but the field neither accepts raw mappings nor references an object type"

/-- A value that does not fit a field of a type. -/
structure ShapeMismatch where
  owner : String
  field : String
  problem : ShapeProblem
deriving DecidableEq, Repr

/-- The wording of a shape mismatch. -/
def ShapeMismatch.message (m : ShapeMismatch) : String :=
  "Shape mismatch on '" ++ m.owner ++ "." ++ m.field ++ "': " ++ m.problem.describe

end TypedQuery
