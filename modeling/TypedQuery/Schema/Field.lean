import TypedQuery.Json.Basic
import TypedQuery.Schema.DeclaredType
import TypedQuery.Schema.Error

/-!
# Fields

A field starts unbound, with whatever options its declaration gives: wire names, a default, whether
changes to it are sent, and a transform for outgoing values. Binding gives it its name and then its
type, each once and in this order. A wire name that was not chosen becomes the field's own name.

Of a declared type one outer layer of list or map is looked through; the rest decides the target. A
map of scalars is a mapping kept raw.
-/

namespace TypedQuery

/-- What is known of a field, its transform aside. -/
structure FieldTraits where
  name : Option String := none
  queryName : Option String := none
  mutateName : Option String := none
  /-- The value of the field when a reply leaves it out. -/
  default : Option Json := none
  target : Target := .scalar
  typeBound : Bool := false
  isCollection : Bool := false
  allowsMapping : Bool := false
  /-- Whether changes to the field are sent in mutation inputs. -/
  mutable : Bool := true
deriving Inhabited

/-- A field of an object type. Its transform is applied to values before they are sent. -/
structure Field extends FieldTraits where
  transform : Option (FieldTraits → Json → Json) := none
deriving Inhabited

namespace FieldTraits

/-- The declared name, empty until it is bound. -/
def label (field : FieldTraits) : String := field.name.getD ""

/-- The name in queries and payloads, empty until it is chosen or bound. -/
def wireQueryName (field : FieldTraits) : String := field.queryName.getD ""

/-- The name in mutation inputs, empty until it is chosen or bound. -/
def wireMutateName (field : FieldTraits) : String := field.mutateName.getD ""

/-- The declared name of the object type that the field refers to. -/
def referencedType? (field : FieldTraits) : Option String :=
  match field.target with
  | .object name => some name
  | _ => none

/-- Whether both the name and the type are bound. -/
def isBound (field : FieldTraits) : Bool := field.name.isSome && field.typeBound

/-- Whether a value of the field may be an object. -/
def acceptsObject (field : FieldTraits) : Bool := field.allowsMapping || field.target != .scalar

/-- Checks the shape of a value other than `null` that a reply holds for the field. -/
def checkShape (field : FieldTraits) (owner : String) (value : Json) : Except ShapeMismatch Unit :=
  if field.isCollection && !value.isList then
    .error ⟨owner, field.label, .listExpected value.kind⟩
  else if value.isObject && !field.acceptsObject then
    .error ⟨owner, field.label, .objectRefused⟩
  else .ok ()

end FieldTraits

namespace Field

/-- Gives the field its name. -/
def bindName (field : Field) (name : String) : Except DeclarationError Field :=
  if field.name.isSome then .error (.fieldAlreadyBound name .name)
  else if field.typeBound then .error (.fieldAlreadyBound name .type)
  else .ok { field with
    name := some name
    queryName := some (field.queryName.getD name)
    mutateName := some (field.mutateName.getD name) }

/-- Gives the field its type. -/
def bindType (field : Field) (declared : DeclaredType) : Except DeclarationError Field :=
  if field.typeBound then .error (.fieldAlreadyBound field.label .type)
  else .ok <|
    match declared with
    | .list inner =>
      { field with target := inner.terminal, isCollection := true, typeBound := true }
    | .map inner =>
      let target := if inner.terminal = .scalar then .mapping else inner.terminal
      { field with target, allowsMapping := true, typeBound := true }
    | terminal => { field with target := terminal.terminal, typeBound := true }

/-- The value that is sent for a value of the field. -/
def outgoing (field : Field) (value : Json) : Json :=
  match field.transform with
  | some transform => transform field.toFieldTraits value
  | none => value

end Field

end TypedQuery
