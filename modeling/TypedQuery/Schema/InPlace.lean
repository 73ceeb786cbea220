import TypedQuery.Schema.Document

/-!
# Filling a registry in place

A registry that is filled by calls is one value that changes under way, table by table. What follows
are the operations on it as they are carried out: each reads the registry as it stands, may be
refused at any point, and what it wrote before it was refused stays written.
-/

namespace TypedQuery

/-- A computation on one registry that changes in place. A refusal takes nothing back. -/
abbrev Registry.InPlace (ε α : Type) : Type := EStateM ε Registry α

namespace Registry.InPlace

variable {ε α : Type}

/-- What a look at the registry as it stands answers, or the refusal that it ends in. -/
def look (answer : Registry → Except ε α) : InPlace ε α := do
  match answer (← get) with
  | .ok value => return value
  | .error error => throw error

/-- Writes a type under all its names, one table after the other. -/
def insert (type : ObjectType) : InPlace ε Unit := do
  if let some root := type.queryRoot? then
    modify fun registry => { registry with queryRoots := registry.queryRoots.set root type }
  if let some root := type.mutateRoot? then
    modify fun registry => { registry with mutateRoots := registry.mutateRoots.set root type }
  modify fun registry =>
    { registry with byTypename := registry.byTypename.set type.typename type }
  modify fun registry => { registry with byName := registry.byName.set type.name type }

/-- Builds a type and registers it, and makes it an implementer of every type above it. -/
def declare (declaration : TypeDeclaration) : InPlace DeclarationError ObjectType := do
  let above ← match declaration.parent with
    | some parent => look (·.ancestors parent)
    | none => pure []
  let type ← look fun _ => declaration.build
  look (·.checkAvailable type)
  above.forM fun base => look (·.checkImplementer base type.typename)
  insert type
  above.forM fun base => modify (·.insertImplementer base type.typename type)
  return type

/-- Registers a type that is already built. -/
def register (type : ObjectType) : InPlace DeclarationError ObjectType := do
  look (·.checkAvailable type)
  insert type
  return type

/-- Refuses a name that no type is declared under. -/
def checkDeclared (registry : Registry) (name : String) : Except DeclarationError Unit :=
  if registry.byName.has name then .ok () else .error (.unknownType name)

/-- Refuses the typename of the base type itself, which always means the base type. -/
def checkOther (base : ObjectType) (typename : String) : Except DeclarationError Unit :=
  if typename = base.typename then
    .error (.duplicateRegistration .implementer (implementerName base.name typename))
  else .ok ()

/-- Makes a concrete type stand for a typename where the base type is expected. -/
def addImplementer (base : ObjectType) (typename : String) (concrete : ObjectType) :
    InPlace DeclarationError Unit := do
  [base.name, concrete.name].forM fun name => look (checkDeclared · name)
  look fun _ => checkOther base typename
  look (·.checkImplementer base.name typename)
  modify (·.insertImplementer base.name typename concrete)

/-! ## Schema documents -/

/-- The type with a declared name, as the registry stands. -/
def declared (name : String) : InPlace DeclarationError ObjectType :=
  look fun registry => match registry.type? name with
    | some type => .ok type
    | none => .error (.unknownType name)

/-- Makes one type stand for another under its own typename, both given by declared names. -/
def implement (base concrete : String) : InPlace DeclarationError Unit := do
  let base ← declared base
  let concrete ← declared concrete
  addImplementer base concrete.typename concrete

/-- Declares a type of a document. -/
def declareEntry (entry : TypeEntry) : InPlace DocumentError Unit :=
  (discard (declare entry.declaration)).adaptExcept (.refused entry.name)

/-- Adds an implementer that a type of a document lists. -/
def implementPair (pair : String × String) : InPlace DocumentError Unit :=
  (implement pair.1 pair.2).adaptExcept (.refused pair.1)

/-- Declares every type of a document, and then adds the implementers that its types list. -/
def load (document : SchemaDocument) : InPlace DocumentError Unit := do
  document.types.forM declareEntry
  document.implementerPairs.forM implementPair

end Registry.InPlace

end TypedQuery
