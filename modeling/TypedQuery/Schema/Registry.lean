import TypedQuery.Schema.ObjectType
import TypedQuery.Table

/-!
# The registry of declared types

A registry finds types by declared name, by typename, and by root name. For every base type it also
keeps its *implementers*: which typenames stand for which concrete types where an object of the base
type is expected. A type that extends another is an implementer of its parent and of all types above
it at the time of its declaration; other relations, such as those of interfaces, are added one by
one.

A declaration checks everything before it changes anything, so one that fails leaves the registry as
it was. A root name belongs to one type, whichever of its roots it is, since replies are looked up
in both tables.
-/

namespace TypedQuery

/-- The declared types and their tables. -/
structure Registry where
  byName : Table ObjectType := []
  byTypename : Table ObjectType := []
  queryRoots : Table ObjectType := []
  mutateRoots : Table ObjectType := []
  /-- The implementers of each base type, by declared name and then by typename. -/
  implementers : Table (Table ObjectType) := []
deriving Inhabited

namespace Registry

/-- The registry without types. -/
def empty : Registry := {}

/-! ## Lookups -/

/-- The type with a declared name. -/
def type? (registry : Registry) (name : String) : Option ObjectType :=
  registry.byName.get? name

/-- The type with a typename. -/
def typeOfTypename? (registry : Registry) (typename : String) : Option ObjectType :=
  registry.byTypename.get? typename

/-- The type with a root name; query roots come first. -/
def typeOfRoot? (registry : Registry) (root : String) : Option ObjectType :=
  match registry.queryRoots.get? root with
  | some type => some type
  | none => registry.mutateRoots.get? root

/-- The implementers of a base type, in the order of registration. -/
def implementersOf (registry : Registry) (base : String) : Table ObjectType :=
  (registry.implementers.get? base).getD []

/-- The implementer of a base type with a typename. -/
def implementer? (registry : Registry) (base typename : String) : Option ObjectType :=
  (registry.implementersOf base).get? typename

/-- Every type, in the order of declaration. -/
def types (registry : Registry) : List ObjectType := registry.byName.values

/-! ## Declarations -/

/-- The declared names from a type up to the one that extends none. The walk takes at most as many
steps as there are types; one that takes more goes round in a circle. -/
def ancestorsWithin (registry : Registry) :
    Nat → String → Except DeclarationError (List String)
  | 0, name => .error (.endlessAncestry name)
  | steps + 1, name =>
    match registry.type? name with
    | none => .error (.unknownType name)
    | some type =>
      match type.parent with
      | none => .ok [type.name]
      | some parent => do return type.name :: (← registry.ancestorsWithin steps parent)

/-- The declared names from a type up to the one that extends none. -/
def ancestors (registry : Registry) (name : String) : Except DeclarationError (List String) :=
  registry.ancestorsWithin (registry.byName.length + 1) name

/-- Whether a name is a root of any type. -/
def hasRoot (registry : Registry) (root : String) : Bool :=
  registry.queryRoots.has root || registry.mutateRoots.has root

/-- Refuses a type with a name that is taken. -/
def checkAvailable (registry : Registry) (type : ObjectType) : Except DeclarationError Unit :=
  if registry.byName.has type.name then .error (.duplicateRegistration .type type.name)
  else if registry.byTypename.has type.typename then
    .error (.duplicateRegistration .typename type.typename)
  else if type.queryRoot?.any registry.hasRoot then
    .error (.duplicateRegistration .queryRoot type.queryRoot)
  else if type.mutateRoot?.any registry.hasRoot then
    .error (.duplicateRegistration .mutationRoot type.mutateRoot)
  else .ok ()

/-- The name under which messages show an implementer. -/
def implementerName (base typename : String) : String := base ++ "/" ++ typename

/-- Refuses a typename that the base type has an implementer for. -/
def checkImplementer (registry : Registry) (base typename : String) :
    Except DeclarationError Unit :=
  if (registry.implementersOf base).has typename then
    .error (.duplicateRegistration .implementer (implementerName base typename))
  else .ok ()

/-- Writes a type into a root table, if it has that root. -/
def setRoot (root : Option String) (type : ObjectType) (table : Table ObjectType) :
    Table ObjectType :=
  match root with
  | some root => table.set root type
  | none => table

/-- Writes a type under all its names. -/
def insert (registry : Registry) (type : ObjectType) : Registry :=
  { registry with
    byName := registry.byName.set type.name type
    byTypename := registry.byTypename.set type.typename type
    queryRoots := setRoot type.queryRoot? type registry.queryRoots
    mutateRoots := setRoot type.mutateRoot? type registry.mutateRoots }

/-- Writes an implementer of a base type. -/
def insertImplementer (registry : Registry) (base typename : String) (concrete : ObjectType) :
    Registry :=
  { registry with
    implementers :=
      registry.implementers.set base ((registry.implementersOf base).set typename concrete) }

/-- Builds a type and registers it, and makes it an implementer of every type above it. -/
def declare (registry : Registry) (declaration : TypeDeclaration) :
    Except DeclarationError (Registry × ObjectType) := do
  let above ← match declaration.parent with
    | some parent => registry.ancestors parent
    | none => pure []
  let type ← declaration.build
  registry.checkAvailable type
  above.forM (registry.checkImplementer · type.typename)
  let registered := registry.insert type
  return (above.foldl (fun r base => r.insertImplementer base type.typename type) registered, type)

/-- Registers a type that is already built. -/
def register (registry : Registry) (type : ObjectType) : Except DeclarationError Registry := do
  registry.checkAvailable type
  return registry.insert type

/-- Makes a concrete type stand for a typename where the base type is expected. Both types must be
registered, and the typename cannot be the base type's own, which always means the base type. -/
def addImplementer (registry : Registry) (base : ObjectType) (typename : String)
    (concrete : ObjectType) : Except DeclarationError Registry :=
  if !registry.byName.has base.name then .error (.unknownType base.name)
  else if !registry.byName.has concrete.name then .error (.unknownType concrete.name)
  else if typename = base.typename then
    .error (.duplicateRegistration .implementer (implementerName base.name typename))
  else do
    registry.checkImplementer base.name typename
    return registry.insertImplementer base.name typename concrete

end Registry

end TypedQuery
