import TypedQuery.Json.Record
import TypedQuery.Schema.Registry

/-!
# Schema documents

A schema document declares a list of types as JSON. Its types are declared in order, so a type comes
after the one it extends. The `implements` lists are applied when every type is declared and may
name types that come later.

Loading stops at the first declaration that is refused; what was declared before stays.
-/

namespace TypedQuery

/-- A field of a schema document. -/
structure FieldEntry where
  name : String
  type : DeclaredType := .scalar
  queryName : Option String := none
  mutateName : Option String := none
  default : Option Json := none
  mutable : Bool := true
deriving Inhabited

/-- A type of a schema document. -/
structure TypeEntry where
  name : String
  typename : Option String := none
  queryRoot : String := ""
  mutateRoot : String := ""
  parent : Option String := none
  /-- The declared names of further types that stand where this one is expected. -/
  implementers : List String := []
  fields : List FieldEntry := []
deriving Inhabited

/-- A schema document. -/
structure SchemaDocument where
  types : List TypeEntry
deriving Inhabited

/-- Why a schema document cannot be loaded. -/
inductive DocumentError where
  | unreadable (error : Json.ReadError)
  | refused (typeName : String) (error : DeclarationError)

/-- The wording of a document error. -/
def DocumentError.message : DocumentError → String
  | unreadable error => "Failed to parse schema document: '" ++ error.message ++ "'"
  | refused typeName error =>
    "Failed to declare type '" ++ typeName ++ "': '" ++ error.message ++ "'"

/-! ## Reading -/

open Json

namespace DeclaredType

/-- The names of the forms of a declared type. -/
def variants : List String := ["scalar", "object", "list", "map"]

/-- Reads the form that a bare name chooses: only `scalar` needs nothing more. -/
def ofName (name : String) : Except ReadError DeclaredType :=
  if name = "scalar" then .ok .scalar
  else if name ∈ variants then
    .error (.mismatch (.wrongType .unitVariant "newtype variant"))
  else .error (.mismatch (.unknownVariant name variants))

/-- What ends an object that chooses a form, after its only member. -/
def endVariant (origin : Origin) (others : List (String × Draft)) (closing : Closing) :
    Except ReadError Unit :=
  match origin, others, closing with
  | _, [], .closed => .ok ()
  | .text, [], .unseparated .endInObject => .error (.fault .endInObject)
  | .text, _, _ => .error (.fault .valueExpected)
  | .value, _, _ => .error (.mismatch (.wrongValue .object "map with a single key"))

/-- Refuses an object without a member where one chooses a form. -/
def refuseEmpty {α : Type} (origin : Origin) (closing : Closing) : Except ReadError α :=
  match origin, closing with
  | .value, _ => .error (.mismatch (.wrongValue .object "map with a single key"))
  | .text, .closed => .error (.fault .valueExpected)
  | .text, .unseparated fault | .text, .afterComma fault => .error (.fault fault)

/-- Reads nothing: the form `scalar` may be written with a `null`. -/
def readUnit (draft : Draft) : Except ReadError Unit :=
  match draft with
  | .null => .ok ()
  | draft => draft.refuse "unit"

/-- Reads a declared type: a bare name, or an object whose only member chooses the form. -/
def read (origin : Origin) : Reader DeclaredType
  | .string name => ofName name
  | .object [] closing => refuseEmpty origin closing
  | .object ((form, draft) :: others) closing => do
    -- A value is looked at only when it is the only one; a text is read as it comes.
    if origin = .value ∧ !others.isEmpty then endVariant origin others closing
    let type ←
      if form = "scalar" then do readUnit draft; pure .scalar
      else if form = "object" then .object <$> draft.readString
      else if form = "list" then .list <$> read origin draft
      else if form = "map" then .map <$> read origin draft
      else .error (.mismatch (.unknownVariant form variants))
    endVariant origin others closing
    return type
  | .broken fault => .error (.fault fault)
  | draft =>
    match origin with
    | .text => .error (.fault .valueExpected)
    | .value => draft.refuse "string or map"

end DeclaredType

namespace FieldEntry

/-- The parts of a field that are known while it is read. -/
structure Parts where
  name : Option String := none
  type : Option DeclaredType := none
  queryName : Option String := none
  mutateName : Option String := none
  default : Option Json := none
  mutable : Option Bool := none

/-- How a field is written. -/
def format (origin : Origin) : RecordFormat Parts FieldEntry where
  name := "FieldDeclaration"
  fields := ["name", "type", "query_name", "mutate_name", "default", "mutable"]
  mandatory := ["name"]
  strict := true
  start := {}
  put parts key draft :=
    match key with
    | "name" => do return { parts with name := some (← draft.readString) }
    | "type" => do return { parts with type := some (← DeclaredType.read origin draft) }
    | "query_name" => do return { parts with queryName := ← draft.readOptional Draft.readString }
    | "mutate_name" => do return { parts with mutateName := ← draft.readOptional Draft.readString }
    | "default" => do return { parts with default := ← draft.readOptional Draft.readJson }
    | "mutable" => do return { parts with mutable := some (← draft.readBool) }
    | _ => .ok parts
  finish parts := do
    return {
      name := ← required "name" parts.name
      type := parts.type.getD .scalar
      queryName := parts.queryName
      mutateName := parts.mutateName
      default := parts.default
      mutable := parts.mutable.getD true }

/-- The declaration of a field. -/
def declaration (entry : FieldEntry) : FieldDeclaration where
  name := entry.name
  type := entry.type
  field := {
    queryName := entry.queryName
    mutateName := entry.mutateName
    default := entry.default
    mutable := entry.mutable }

end FieldEntry

namespace TypeEntry

/-- The parts of a type that are known while it is read. -/
structure Parts where
  name : Option String := none
  typename : Option String := none
  queryRoot : Option String := none
  mutateRoot : Option String := none
  parent : Option String := none
  implementers : Option (List String) := none
  fields : Option (List FieldEntry) := none

/-- How a type is written. -/
def format (origin : Origin) : RecordFormat Parts TypeEntry where
  name := "TypeDeclaration"
  fields :=
    ["name", "typename", "query_root", "mutate_root", "extends", "implements", "fields"]
  mandatory := ["name"]
  strict := true
  start := {}
  put parts key draft :=
    match key with
    | "name" => do return { parts with name := some (← draft.readString) }
    | "typename" => do return { parts with typename := ← draft.readOptional Draft.readString }
    | "query_root" => do return { parts with queryRoot := some (← draft.readString) }
    | "mutate_root" => do return { parts with mutateRoot := some (← draft.readString) }
    | "extends" => do return { parts with parent := ← draft.readOptional Draft.readString }
    | "implements" => do
      return { parts with implementers := some (← draft.readList Draft.readString) }
    | "fields" => do
      return { parts with
        fields := some (← draft.readList ((FieldEntry.format origin).read origin)) }
    | _ => .ok parts
  finish parts := do
    return {
      name := ← required "name" parts.name
      typename := parts.typename
      queryRoot := parts.queryRoot.getD ""
      mutateRoot := parts.mutateRoot.getD ""
      parent := parts.parent
      implementers := parts.implementers.getD []
      fields := parts.fields.getD [] }

/-- The declaration of a type. -/
def declaration (entry : TypeEntry) : TypeDeclaration where
  name := entry.name
  typename := entry.typename
  queryRoot := entry.queryRoot
  mutateRoot := entry.mutateRoot
  parent := entry.parent
  fields := entry.fields.map FieldEntry.declaration

end TypeEntry

namespace SchemaDocument

/-- How a schema document is written. -/
def format (origin : Origin) : RecordFormat (Option (List TypeEntry)) SchemaDocument where
  name := "SchemaDocument"
  fields := ["types"]
  mandatory := ["types"]
  strict := true
  start := none
  put parts key draft :=
    match key with
    | "types" => some <$> draft.readList ((TypeEntry.format origin).read origin)
    | _ => .ok parts
  finish parts := do return { types := ← required "types" parts }

/-- Reads a schema document from its text. -/
def ofText (source : String) : Except DocumentError SchemaDocument :=
  (readText ((format .text).read .text) source).mapError .unreadable

/-- Reads a schema document from a value. -/
def ofJson (value : Json) : Except DocumentError SchemaDocument :=
  ((format .value).read .value (Draft.ofJson value)).mapError .unreadable

/-! ## Loading -/

/-- The registry after the declarations of some types, and the error that stopped them. -/
def declareTypes (registry : Registry) : List TypeEntry → Registry × Option DocumentError
  | [] => (registry, none)
  | entry :: rest =>
    match registry.declare entry.declaration with
    | .ok (registry, _) => declareTypes registry rest
    | .error error => (registry, some (.refused entry.name error))

/-- Makes one type stand for another, both given by declared names. -/
def addImplementer (registry : Registry) (base concrete : String) :
    Except DeclarationError Registry :=
  match registry.type? base, registry.type? concrete with
  | none, _ => .error (.unknownType base)
  | some _, none => .error (.unknownType concrete)
  | some base, some concrete => registry.addImplementer base concrete.typename concrete

/-- The registry after some additions of implementers, and the error that stopped them. -/
def addImplementers (registry : Registry) :
    List (String × String) → Registry × Option DocumentError
  | [] => (registry, none)
  | (base, concrete) :: rest =>
    match addImplementer registry base concrete with
    | .ok registry => addImplementers registry rest
    | .error error => (registry, some (.refused base error))

/-- The implementers that the types of a document list, each with the type that lists it. -/
def implementerPairs (document : SchemaDocument) : List (String × String) :=
  document.types.flatMap fun entry => entry.implementers.map fun name => (entry.name, name)

/-- Declares every type of a document. The registry that is left holds all that came before the
first error. -/
def loadInto (document : SchemaDocument) (registry : Registry) :
    Registry × Option DocumentError :=
  match declareTypes registry document.types with
  | (registry, none) => addImplementers registry document.implementerPairs
  | (registry, some error) => (registry, some error)

/-- The registry of a document that loads without error. -/
def load (document : SchemaDocument) : Except DocumentError Registry :=
  match document.loadInto .empty with
  | (registry, none) => .ok registry
  | (_, some error) => .error error

end SchemaDocument

end TypedQuery
