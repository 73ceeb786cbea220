import TypedQuery.Schema.Field
import TypedQuery.Text.TitleCase

/-!
# Object types

A type declaration collects names and fields; building it binds every field and gives the object
type, which does not change any more. A type is known by its declared name here and by its typename
on the wire, which is the title case of the declared name unless the declaration chooses another.
Its fields have distinct names and distinct wire names in queries, and none of these is the
discriminator.
-/

namespace TypedQuery

/-- A remote object type. An empty root name means that the type has no such root. -/
structure ObjectType where
  name : String
  typename : String
  queryRoot : String := ""
  mutateRoot : String := ""
  /-- The declared name of the type that this one extends. -/
  parent : Option String := none
  fields : List Field := []
deriving Inhabited

namespace ObjectType

/-- The field of queries that answers objects of the type. -/
def queryRoot? (type : ObjectType) : Option String :=
  if type.queryRoot = "" then none else some type.queryRoot

/-- The field of mutations that answers objects of the type. -/
def mutateRoot? (type : ObjectType) : Option String :=
  if type.mutateRoot = "" then none else some type.mutateRoot

/-- The field with a declared name. -/
def field? (type : ObjectType) (name : String) : Option Field :=
  type.fields.find? (·.label = name)

end ObjectType

/-- A field as a type declaration holds it. -/
structure FieldDeclaration where
  name : String
  type : DeclaredType := .scalar
  field : Field := {}
deriving Inhabited

/-- A type before its fields are bound. -/
structure TypeDeclaration where
  name : String
  /-- The name on the wire, if it is not the title case of the declared name. -/
  typename : Option String := none
  queryRoot : String := ""
  mutateRoot : String := ""
  parent : Option String := none
  fields : List FieldDeclaration := []
deriving Inhabited

namespace TypeDeclaration

/-- The name on the wire. -/
def wireTypename (declaration : TypeDeclaration) : String :=
  declaration.typename.getD (Text.titleCase declaration.name)

/-- Binds a field and adds it to the fields before it. -/
def addField (typeName : String) (earlier : List Field) (declared : FieldDeclaration) :
    Except DeclarationError (List Field) := do
  let named ← declared.field.bindName declared.name
  let field ← named.bindType declared.type
  if declared.name = discriminator ∨ field.wireQueryName = discriminator then
    .error (.reservedFieldName typeName declared.name)
  else if earlier.any (·.wireQueryName = field.wireQueryName) then
    .error (.duplicateField typeName declared.name)
  else if earlier.any (·.label = declared.name) then
    .error (.duplicateField typeName declared.name)
  else return earlier ++ [field]

/-- Binds every field in order and builds the type. -/
def build (declaration : TypeDeclaration) : Except DeclarationError ObjectType := do
  let fields ← declaration.fields.foldlM (addField declaration.name) []
  return {
    name := declaration.name
    typename := declaration.wireTypename
    queryRoot := declaration.queryRoot
    mutateRoot := declaration.mutateRoot
    parent := declaration.parent
    fields }

end TypeDeclaration

end TypedQuery
