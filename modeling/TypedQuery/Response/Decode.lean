import TypedQuery.Response.Instance
import TypedQuery.Response.Payload
import TypedQuery.Schema.Registry

/-!
# Decoding replies

A payload is decoded against the registry: every root of its data names a type, and every object
under it becomes an instance of that type or of the implementer that its discriminator names. Fields
are filled in declaration order, whatever the order of the keys; keys that no field claims are
ignored. A payload with errors gives no instances, and neither does one that fails at any depth.

## Shape of the recursion

An object is read field by field: `readMember` looks for the wire name among the members,
`readValue` fits the value to the field, and `readItems` goes through the items of a collection.
Each call goes to a part of the value it was given, so the recursion follows the value.
-/

namespace TypedQuery

/-- Why a payload is malformed. -/
inductive MalformedPayload where
  | notAnObject (got : String)
  | unreadable (error : Json.ReadError)
  | dataNotAnObject (got : String)

/-- The wording of a malformed payload. -/
def MalformedPayload.describe : MalformedPayload → String
  | notAnObject got => "expected an object, got " ++ got
  | unreadable error => error.message
  | dataNotAnObject got => "expected `data` to be an object, got " ++ got

/-- Why a payload cannot be decoded. -/
inductive DecodeError where
  | remoteOperationFailed (errors : List RemoteError)
  | unknownRootName (root : String)
  | unknownDiscriminator (base typename : String)
  | shapeMismatch (mismatch : ShapeMismatch)
  | unknownType (name : String)
  | malformedPayload (reason : MalformedPayload)

/-- The wording of a decoding error. Remote errors stand one per line. -/
def DecodeError.message : DecodeError → String
  | remoteOperationFailed errors => "\n".intercalate (errors.map (·.message))
  | unknownRootName root => "Root field '" ++ root ++ "' does not belong to any declared type"
  | unknownDiscriminator base typename =>
    "The server returned unknown typename '" ++ typename ++ "' for type '" ++ base ++ "'"
  | shapeMismatch mismatch => mismatch.message
  | unknownType name => "Type '" ++ name ++ "' is referenced but not declared"
  | malformedPayload reason => "Malformed payload: '" ++ reason.describe ++ "'"

/-- Decoded instances under the roots that returned them, in payload order. -/
structure Results where
  groups : Table (List Instance)

namespace Results

/-- The instances under a root. -/
def get? (results : Results) (root : String) : Option (List Instance) :=
  results.groups.get? root

/-- Whether no root was returned. -/
def isEmpty (results : Results) : Bool := results.groups.isEmpty

end Results

namespace Registry

/-- The type of an object that stands where a base type is expected: the one that its discriminator
names, or the base type if it names none. -/
def variant (registry : Registry) (base : ObjectType) (members : List (String × Json)) :
    Except DecodeError ObjectType :=
  match Table.get? discriminator members with
  | none | some .null => .ok base
  | some (.string typename) =>
    if typename = base.typename then .ok base
    else
      match registry.implementer? base.name typename with
      | some concrete => .ok concrete
      | none => .error (.unknownDiscriminator base.name typename)
  | some other =>
    .error (.shapeMismatch ⟨base.name, discriminator, .stringExpected other.kind⟩)

/-- The instance of an object, given how a field of its type is read. -/
def assemble (registry : Registry) (base : ObjectType) (members : List (String × Json))
    (read : ObjectType → Field → Except DecodeError FieldValue) : Except DecodeError Instance := do
  let type ← registry.variant base members
  let values ← type.fields.mapM fun field => do return (field.label, ← read type field)
  return { type, values, changed := [] }

/-- The type that the objects in a value of a field have, after the shape of the value was checked.
A field that refers to no type keeps its value raw. -/
def referenced (registry : Registry) (owner : ObjectType) (field : Field) (value : Json) :
    Except DecodeError (Option ObjectType) := do
  (field.checkShape owner.name value).mapError .shapeMismatch
  match field.target with
  | .object name =>
    match registry.type? name with
    | some type => return some type
    | none => .error (.unknownType name)
  | .scalar | .mapping => return none

/-- The error of a value that is no object where one is expected. -/
def objectExpected (owner : ObjectType) (field : Field) (value : Json) : DecodeError :=
  .shapeMismatch ⟨owner.name, field.label, .objectExpected value.kind⟩

/-- The value of a field that a reply left out. -/
def absentValue (field : Field) : FieldValue :=
  match field.default with
  | some value => .raw value
  | none => .unset

mutual

/-- Reads a field of an object. -/
def readMember (registry : Registry) (owner : ObjectType) (field : Field) :
    List (String × Json) → Except DecodeError FieldValue
  | [] => .ok (absentValue field)
  | (key, value) :: rest =>
    if key = field.wireQueryName then readValue registry owner field value
    else readMember registry owner field rest

/-- Reads the value of a field. -/
def readValue (registry : Registry) (owner : ObjectType) (field : Field) :
    Json → Except DecodeError FieldValue
  | .null => .ok (.raw .null)
  | .list items => do
    match ← registry.referenced owner field (.list items) with
    | none => return .raw (.list items)
    | some type =>
      if field.isCollection then return .list (← readItems registry owner field type items)
      else .error (objectExpected owner field (.list items))
  | .object members => do
    match ← registry.referenced owner field (.object members) with
    | none => return .raw (.object members)
    | some type =>
      let object ← registry.assemble type members fun owner field =>
        readMember registry owner field members
      return .object object
  | value => do
    match ← registry.referenced owner field value with
    | none => return .raw value
    | some _ => .error (objectExpected owner field value)

/-- Reads the items of a collection of objects of a type. -/
def readItems (registry : Registry) (owner : ObjectType) (field : Field) (type : ObjectType) :
    List Json → Except DecodeError (List FieldValue)
  | [] => .ok []
  | item :: rest => do
    let value ← readItem registry owner field type item
    return value :: (← readItems registry owner field type rest)

/-- Reads one item of a collection of objects of a type. -/
def readItem (registry : Registry) (owner : ObjectType) (field : Field) (type : ObjectType) :
    Json → Except DecodeError FieldValue
  | .null => .ok (.raw .null)
  | .object members => do
    let object ← registry.assemble type members fun owner field =>
      readMember registry owner field members
    return .object object
  | item => .error (objectExpected owner field item)

end

/-- The instance of a value that stands where a base type is expected. -/
def instantiate (registry : Registry) (base : ObjectType) : Json → Except DecodeError Instance
  | .object members =>
    registry.assemble base members fun owner field => registry.readMember owner field members
  | value => .error (.shapeMismatch ⟨base.name, discriminator, .objectExpected value.kind⟩)

/-- The instances of a value under a root: none for `null`, one for an object, and one for every
item of a list that is not `null`. -/
def instantiateRoot (registry : Registry) (base : ObjectType) :
    Json → Except DecodeError (List Instance)
  | .null => .ok []
  | .list items => (items.filter (!·.isNull)).mapM (registry.instantiate base)
  | value => do return [← registry.instantiate base value]

/-- The instances under each root of the data. -/
def decodeRoots (registry : Registry) (data : List (String × Json)) :
    Except DecodeError (Table (List Instance)) :=
  data.mapM fun (root, value) =>
    match registry.typeOfRoot? root with
    | some base => do return (root, ← registry.instantiateRoot base value)
    | none => .error (.unknownRootName root)

/-- Decodes a payload. -/
def decode (registry : Registry) (value : Json) : Except DecodeError Results := do
  if !value.isObject then .error (.malformedPayload (.notAnObject value.kind))
  let payload ← (Payload.ofJson value).mapError fun error => .malformedPayload (.unreadable error)
  match payload.errors.getD [] with
  | [] =>
    match payload.data with
    | none | some .null => return { groups := [] }
    | some (.object members) => return { groups := ← registry.decodeRoots members }
    | some other => .error (.malformedPayload (.dataNotAnObject other.kind))
  | errors => .error (.remoteOperationFailed errors)

end Registry

end TypedQuery
