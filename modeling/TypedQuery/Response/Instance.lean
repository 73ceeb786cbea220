import TypedQuery.Schema.ObjectType
import TypedQuery.Table

/-!
# Instances

An instance is an object of a known type: a value for each field of the type, in declaration order,
and the fields that were set since it was made, in the order in which they were first set.

An instance is written in two forms. As a reply would hold it, it begins with the discriminator and
has every field that is not unset under its wire name in queries. As the input of a mutation it has
only mutable fields, under their wire names in mutations, each value passed through the transform of
its field.
-/

namespace TypedQuery

mutual

/-- The value of a field. -/
inductive FieldValue where
  /-- The reply left the field out and it has no default. -/
  | unset
  /-- A scalar, a raw mapping or `null`. -/
  | raw (value : Json)
  | object (value : Instance)
  | list (items : List FieldValue)

/-- An object of a known type. -/
structure Instance where
  type : ObjectType
  values : List (String × FieldValue)
  /-- The fields set since the instance was made, in the order of their first setting. -/
  changed : List String

end

instance : Inhabited FieldValue := ⟨.unset⟩

instance : Inhabited Instance := ⟨⟨default, [], []⟩⟩

/-- A field that the type of an instance does not declare. -/
structure UnknownField where
  typeName : String
  field : String
deriving DecidableEq, Repr

/-- The wording of an unknown field. -/
def UnknownField.message (error : UnknownField) : String :=
  "Unknown field '" ++ error.typeName ++ "." ++ error.field ++ "'"

/-! ## Values and changes -/

namespace Instance

/-- An instance with every field unset. -/
def new (type : ObjectType) : Instance where
  type := type
  values := type.fields.map fun field => (field.label, .unset)
  changed := []

/-- The value of a field. -/
def get? (object : Instance) (field : String) : Option FieldValue :=
  Table.get? field object.values

/-- Sets a declared field and remembers that it changed. -/
def set (object : Instance) (field : String) (value : FieldValue) :
    Except UnknownField Instance :=
  if Table.has object.values field then
    .ok { object with
      values := Table.set field value object.values
      changed := if field ∈ object.changed then object.changed else object.changed ++ [field] }
  else .error ⟨object.type.name, field⟩

/-- Forgets which fields changed. -/
def clearChanges (object : Instance) : Instance := { object with changed := [] }

/-- Whether any field changed. -/
def isChanged (object : Instance) : Bool := !object.changed.isEmpty

end Instance

/-! ## Written forms -/

/-- The members of an instance as a reply holds them, given the written value of each field. -/
def replyMembers (type : ObjectType) (written : Table (Option Json)) : Table Json :=
  Table.ofWrites <|
    (discriminator, .string type.typename) ::
      type.fields.filterMap fun field =>
        ((written.get? field.label).join).map (field.wireQueryName, ·)

/-- The members of a mutation input, given the fields to send and the written value of each. -/
def inputMembers (fields : List Field) (written : Table (Option Json)) : Table Json :=
  Table.ofWrites <|
    fields.filterMap fun field =>
      ((written.get? field.label).join).map fun value =>
        (field.wireMutateName, field.outgoing value)

mutual

/-- The value as a reply holds it; an unset field has none. -/
def FieldValue.toJson? : FieldValue → Option Json
  | .unset => none
  | .raw value => some value
  | .object value => some value.toJson
  | .list items => some (.list (replyItems items))

/-- Items as a reply holds them. An unset item is `null`. -/
def replyItems : List FieldValue → List Json
  | [] => []
  | item :: rest => item.toJson?.getD .null :: replyItems rest

/-- The written value of each field in a reply. -/
def replyValues : List (String × FieldValue) → Table (Option Json)
  | [] => []
  | (name, value) :: rest => (name, value.toJson?) :: replyValues rest

/-- The instance as a reply holds it. -/
def Instance.toJson : Instance → Json
  | ⟨type, values, _⟩ => .object (replyMembers type (replyValues values))

end

mutual

/-- The value as a mutation input holds it; an unset field has none. -/
def FieldValue.toInput? : FieldValue → Option Json
  | .unset => none
  | .raw value => some value
  | .object value => some value.toInput
  | .list items => some (.list (inputItems items))

/-- Items as a mutation input holds them. An unset item is `null`. -/
def inputItems : List FieldValue → List Json
  | [] => []
  | item :: rest => item.toInput?.getD .null :: inputItems rest

/-- The written value of each field in a mutation input. -/
def inputValues : List (String × FieldValue) → Table (Option Json)
  | [] => []
  | (name, value) :: rest => (name, value.toInput?) :: inputValues rest

/-- A whole instance as a mutation input: all its mutable fields that are set. -/
def Instance.toInput : Instance → Json
  | ⟨type, values, _⟩ =>
    .object (inputMembers (type.fields.filter (·.mutable)) (inputValues values))

end

/-- The input of an update: the mutable fields that changed and are set. -/
def Instance.changes (object : Instance) : Table Json :=
  inputMembers
    (object.type.fields.filter fun field => field.mutable && object.changed.contains field.label)
    (inputValues object.values)

/-! ## Equality -/

/-- Equality of lists without repeats as sets. -/
def sameNames (a b : List String) : Bool :=
  a.length == b.length && a.all b.contains

mutual

/-- Equality of field values. -/
def FieldValue.same : FieldValue → FieldValue → Bool
  | .unset, .unset => true
  | .raw a, .raw b => a.same b
  | .object a, .object b => a.same b
  | .list a, .list b => sameItems a b
  | _, _ => false

/-- Equality of lists, item by item. -/
def sameItems : List FieldValue → List FieldValue → Bool
  | [], [] => true
  | a :: as, b :: bs => a.same b && sameItems as bs
  | _, _ => false

/-- Whether every field of the first list has an equal value in the second. -/
def sameValues : List (String × FieldValue) → List (String × FieldValue) → Bool
  | [], _ => true
  | (name, a) :: rest, values =>
    (match Table.get? name values with
      | some b => a.same b
      | none => false) && sameValues rest values

/-- Equality of instances: the same type name, equal values, and the same changed fields in any
order. -/
def Instance.same : Instance → Instance → Bool
  | ⟨type, values, changed⟩, other =>
    type.name == other.type.name &&
      (values.length == other.values.length && sameValues values other.values) &&
      sameNames changed other.changed

end

end TypedQuery
