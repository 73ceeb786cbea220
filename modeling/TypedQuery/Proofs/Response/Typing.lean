import TypedQuery.Proofs.Response.Replay

/-!
# Decoded results are well typed

What is decoded can be used without looking at the reply again: every instance has the type that is
expected in its place or an implementer of it, and holds one value for each field of its own type,
such as the field may have. `Typed` says so of an instance and of all instances inside it, next to
the value that they stand for, and without a word about reading.

That an instance has the very typename that its object names does not follow from the types alone.
It holds where implementers stand under their own typenames, and declarations and documents see to
that (`FromDeclarations.keyedByTypename`); an implementer that is added by hand may stand under
another one.
-/

namespace TypedQuery

open Checked Json

namespace Registry

variable {registry : Registry} {base type : ObjectType} {field : Field} {value : Json}
  {members : List (String × Json)} {object : Instance}

/-! ## Typed instances -/

/-- The registries that declarations and schema documents alone have filled. -/
inductive FromDeclarations : Registry → Prop
  | empty : FromDeclarations .empty
  | declare {registry : Registry} (earlier : FromDeclarations registry)
      (declaration : TypeDeclaration) : FromDeclarations (registry.perform (.declare declaration))
  | load {registry : Registry} (earlier : FromDeclarations registry) (document : SchemaDocument) :
      FromDeclarations (registry.perform (.load document))

mutual

/-- The instances that an object may stand for where a base type is expected. -/
inductive Typed (registry : Registry) : ObjectType → Json → Instance → Prop
  | object {base : ObjectType} {members : List (String × Json)} {object : Instance}
      (type : object.type = base ∨
        ∃ typename, registry.implementer? base.name typename = some object.type)
      (named : registry.FromDeclarations → ∀ typename,
        Table.get? discriminator members = some (.string typename) →
          object.type.typename = typename)
      (values : TypedFields registry members object.type.fields object.values)
      (unchanged : object.changed = []) : Typed registry base (.object members) object

/-- One value for each field, in the order of the fields. -/
inductive TypedFields (registry : Registry) :
    List (String × Json) → List Field → List (String × FieldValue) → Prop
  | nil {members : List (String × Json)} : TypedFields registry members [] []
  | cons {members : List (String × Json)} {field : Field} {fields : List Field}
      {held : FieldValue} {values : List (String × FieldValue)}
      (first : TypedField registry field (Table.get? field.wireQueryName members) held)
      (rest : TypedFields registry members fields values) :
      TypedFields registry members (field :: fields) ((field.label, held) :: values)

/-- The values that a field may have. One that the object leaves out is unset or has its default. A
field that refers to a type has instances, alone or in a list as it asks; any other is kept raw. -/
inductive TypedField (registry : Registry) : Field → Option Json → FieldValue → Prop
  | unset {field : Field} (noDefault : field.default = none) :
      TypedField registry field none .unset
  | default {field : Field} {value : Json} (default : field.default = some value) :
      TypedField registry field none (.raw value)
  | null {field : Field} : TypedField registry field (some .null) (.raw .null)
  | raw {field : Field} {value : Json} (unreferenced : field.referencedType? = none) :
      TypedField registry field (some value) (.raw value)
  | object {field : Field} {name : String} {type : ObjectType} {value : Json} {object : Instance}
      (target : field.target = .object name) (found : registry.type? name = some type)
      (single : field.isCollection = false) (typed : Typed registry type value object) :
      TypedField registry field (some value) (.object object)
  | list {field : Field} {name : String} {type : ObjectType} {items : List Json}
      {held : List FieldValue} (target : field.target = .object name)
      (found : registry.type? name = some type) (collection : field.isCollection = true)
      (typed : TypedItems registry type items held) :
      TypedField registry field (some (.list items)) (.list held)

/-- An instance of a type for each item that is not `null`. -/
inductive TypedItems (registry : Registry) : ObjectType → List Json → List FieldValue → Prop
  | nil {type : ObjectType} : TypedItems registry type [] []
  | null {type : ObjectType} {items : List Json} {held : List FieldValue}
      (rest : TypedItems registry type items held) :
      TypedItems registry type (.null :: items) (.raw .null :: held)
  | object {type : ObjectType} {item : Json} {object : Instance} {items : List Json}
      {held : List FieldValue} (first : Typed registry type item object)
      (rest : TypedItems registry type items held) :
      TypedItems registry type (item :: items) (.object object :: held)

end

/-- The results that a payload may stand for: a group for each root of its data, in order, with an
instance of the type of the root for each value under it that is not `null`. -/
def TypedResults (registry : Registry) (payload : Json) (results : Results) : Prop :=
  ∃ members data, payload = .object members ∧
    rootsOf (Table.get? "data" members) = .ok data ∧
    List.Forall₂
      (fun entry group => group.1 = entry.1 ∧ ∃ base, registry.typeOfRoot? entry.1 = some base ∧
        List.Forall₂ (registry.Typed base) (rootItems entry.2) group.2)
      data results.groups

/-! ## The type of an instance -/

/-- Declarations and documents put implementers under their own typenames. -/
theorem FromDeclarations.keyedByTypename (declared : registry.FromDeclarations) :
    registry.KeyedByTypename := by
  induction declared with
  | empty => exact fun _ _ _ h => by cases h
  | declare _ declaration ih =>
    rw [perform]
    split
    · rename_i hdeclare
      exact ih.declare hdeclare
    · exact ih
  | load _ document ih => exact ih.load document

/-- The type of an object is the one that is expected or an implementer of it. -/
theorem Resolves.eq_or_implementer {discriminator? : Option Json}
    (resolves : registry.Resolves base discriminator? type) :
    type = base ∨ ∃ typename, registry.implementer? base.name typename = some type := by
  cases resolves with
  | implementer _ found => exact .inr ⟨_, found⟩
  | _ => exact .inl rfl

/-- The type of an object has the typename that the object names. -/
theorem Resolves.typename_eq (keyed : registry.KeyedByTypename) {typename : String}
    (resolves : registry.Resolves base (some (.string typename)) type) :
    type.typename = typename := by
  cases resolves with
  | own => rfl
  | implementer _ found => exact keyed _ _ _ found

/-! ## Reading is sound -/

/-- Fields have typed values, one each, if each of them has. -/
theorem TypedFields.of_forall₂ {fields : List Field} {values : List (String × FieldValue)}
    (typed : List.Forall₂ (fun field entry => entry.1 = field.label ∧
      registry.TypedField field (Table.get? field.wireQueryName members) entry.2) fields values) :
    registry.TypedFields members fields values := by
  induction typed with
  | nil => exact .nil
  | @cons field entry _ _ first _ ih =>
    obtain ⟨label, held⟩ := entry
    obtain ⟨rfl, first⟩ := first
    exact .cons first ih

/-- Items are read as instances of the type of the collection, if objects are. -/
theorem TypedItems.of_forall₂ {items : List Json} {held : List FieldValue}
    (read : List.Forall₂ (registry.ReadsItem type) items held)
    (objects : ∀ item ∈ items, ∀ object,
      registry.instantiate type item = .ok object → registry.Typed type item object) :
    registry.TypedItems type items held := by
  induction read with
  | nil => exact .nil
  | cons first _ ih =>
    have hrest := ih fun item hitem => objects item (List.mem_cons_of_mem _ hitem)
    cases first with
    | null => exact .null hrest
    | object read => exact .object (objects _ List.mem_cons_self _ read) hrest

/-- A field is read as a value that it may have, if the objects in it are. -/
theorem ReadsField.typed {value? : Option Json} {held : FieldValue}
    (read : registry.ReadsField field value? held)
    (objects : ∀ value ∈ value?, ∀ type part object, sizeOf part ≤ sizeOf value →
      registry.instantiate type part = .ok object → registry.Typed type part object) :
    registry.TypedField field value? held := by
  cases read with
  | absent =>
    rw [absentValue]
    split
    · rename_i hdefault
      exact .default hdefault
    · rename_i hdefault
      exact .unset hdefault
  | present read =>
    have hobjects := objects _ rfl
    cases read with
    | null => exact .null
    | raw _ unreferenced _ => exact .raw unreferenced
    | object target found single read =>
      exact .object target found single (hobjects _ _ _ (Nat.le_refl _) read)
    -- The items stand inside the value, so what is known of smaller values is enough.
    | list target found collection read =>
      refine .list target found collection (.of_forall₂ read fun item hitem object => ?_)
      exact hobjects _ item object (Nat.le_of_lt (sizeOf_lt_of_mem hitem))

/-- Every instance that is read from a value is typed. -/
theorem typed_of_instantiate (read : registry.instantiate base value = .ok object) :
    registry.Typed base value object := by
  induction value using size_induction generalizing base object with
  | step value ih =>
    obtain ⟨members, rfl, resolves, fields, unchanged⟩ := instantiate_eq_ok_iff.mp read
    refine .object resolves.eq_or_implementer (fun declared typename hget => ?_)
      (.of_forall₂ (fields.imp fun field entry h => ⟨h.1, ?_⟩)) unchanged
    · rw [hget] at resolves
      exact resolves.typename_eq declared.keyedByTypename
    · refine h.2.typed fun value hget type part object hsize hread => ?_
      exact ih part (Nat.lt_of_le_of_lt hsize (sizeOf_lt_of_get?_eq_some hget)) hread

/-- Decoded results are typed, at every depth. -/
theorem decode_typed {payload : Json} (distinct : payload.hasDistinctKeys = true)
    {results : Results} (decoded : registry.decode payload = .ok results) :
    registry.TypedResults payload results := by
  obtain ⟨members, rfl, -, read⟩ := (decode_eq_ok_iff distinct).mp decoded
  obtain ⟨data, hdata, read⟩ := bind_eq_ok.mp (readsData_iff.mp read)
  refine ⟨members, data, rfl, hdata, (decodeRoots_eq_ok_iff.mp read).imp ?_⟩
  rintro entry group ⟨hroot, base, hbase, read⟩
  exact ⟨hroot, base, hbase, read.imp fun _ _ => typed_of_instantiate⟩

/-- The lone shelf is decoded to typed results, with an atlas among its books. -/
theorem loneShelf_decode_typed :
    library.FromDeclarations ∧
      ∃ results, library.decode loneShelf = .ok results ∧ library.TypedResults loneShelf results :=
  ⟨.load .empty libraryDocument, _, rfl, decode_typed (by decide) rfl⟩

end Registry

end TypedQuery
