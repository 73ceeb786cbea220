import TypedQuery.Proofs.Checked
import TypedQuery.Proofs.Json.Distinct
import TypedQuery.Response.Decode

/-!
# When reading succeeds

Each reader of replies is said here by the results that it has. `Resolves` is the choice of a type
by the discriminator, `Reads` the reading of one value for one field, and `instantiate_eq_ok_iff` an
object as the readings of the fields of its type. The relations go one level deep: what stands
inside a value is again read by `instantiate`, so statements about whole values are proved by
induction on the value.
-/

namespace TypedQuery

open Checked

/-- The shape that a field asks of a value other than `null`. -/
structure FieldTraits.FitsShape (field : FieldTraits) (value : Json) : Prop where
  list : field.isCollection = true → value.isList = true
  object : value.isObject = true → field.acceptsObject = true

/-- A check of a shape passes just if the value has the shape that the field asks for. -/
theorem FieldTraits.checkShape_eq_ok_iff {field : FieldTraits} {owner : String} {value : Json} :
    field.checkShape owner value = .ok () ↔ field.FitsShape value := by
  rw [checkShape]
  split_ifs with hlist hobject
  · simp only [Bool.and_eq_true, Bool.not_eq_true'] at hlist
    exact iff_of_false (by simp) fun fits => by simp [fits.list hlist.1] at hlist
  · simp only [Bool.and_eq_true, Bool.not_eq_true'] at hobject
    exact iff_of_false (by simp) fun fits => by simp [fits.object hobject.1] at hobject
  · simp only [Bool.and_eq_true, Bool.not_eq_true', not_and, Bool.not_eq_false] at hlist hobject
    exact iff_of_true rfl ⟨hlist, hobject⟩

namespace Registry

variable {registry : Registry} {base owner type : ObjectType} {field : Field}

/-! ## The type of an object -/

/-- The type of an object that stands where a base type is expected, by the value of its
discriminator. -/
inductive Resolves (registry : Registry) (base : ObjectType) : Option Json → ObjectType → Prop
  | absent : Resolves registry base none base
  | null : Resolves registry base (some .null) base
  | own : Resolves registry base (some (.string base.typename)) base
  | implementer {typename : String} {concrete : ObjectType} (other : typename ≠ base.typename)
      (found : registry.implementer? base.name typename = some concrete) :
      Resolves registry base (some (.string typename)) concrete

/-- The discriminator of an object chooses a type just if it resolves to this type. -/
theorem variant_eq_ok_iff {members : List (String × Json)} :
    registry.variant base members = .ok type ↔
      registry.Resolves base (Table.get? discriminator members) type := by
  rw [variant]
  split
  · rename_i h
    rw [h, Except.ok.injEq]
    exact ⟨fun heq => heq ▸ .absent, fun r => by cases r; rfl⟩
  · rename_i h
    rw [h, Except.ok.injEq]
    exact ⟨fun heq => heq ▸ .null, fun r => by cases r; rfl⟩
  · rename_i typename h
    rw [h]
    -- The typename of the base is looked at before its implementers, so an implementer under that
    -- typename would not be found.
    split
    · rename_i hown
      subst hown
      rw [Except.ok.injEq]
      refine ⟨fun heq => heq ▸ .own, fun r => ?_⟩
      cases r with
      | own => rfl
      | implementer other _ => exact absurd rfl other
    · rename_i hother
      split
      · rename_i concrete hfound
        rw [Except.ok.injEq]
        refine ⟨fun heq => heq ▸ .implementer hother hfound, fun r => ?_⟩
        cases r with
        | own => exact absurd rfl hother
        | implementer _ found => exact Option.some.inj (hfound.symm.trans found)
      · rename_i hnone
        refine iff_of_false (by simp) fun r => ?_
        cases r with
        | own => exact hother rfl
        | implementer _ found => rw [hnone] at found; cases found
  · -- Any other value is refused, and no case of `Resolves` has one.
    rename_i value hnull hstring h
    rw [h]
    refine iff_of_false (by simp) fun r => ?_
    generalize hvalue : some value = found at r
    cases r with
    | absent => cases hvalue
    | null => exact hnull (Option.some.inj hvalue)
    | own => exact hstring _ (Option.some.inj hvalue)
    | implementer _ _ => exact hstring _ (Option.some.inj hvalue)

/-- A discriminator chooses one type. -/
theorem Resolves.unique {members : List (String × Json)} {other : ObjectType}
    (resolves : registry.Resolves base (Table.get? discriminator members) type)
    (again : registry.Resolves base (Table.get? discriminator members) other) : type = other := by
  have h := variant_eq_ok_iff.mpr resolves
  rw [variant_eq_ok_iff.mpr again] at h
  exact (Except.ok.inj h).symm

/-! ## The values of fields -/

/-- The types that a field refers to. -/
theorem referenced_eq_ok_some_iff {value : Json} :
    registry.referenced owner field value = .ok (some type) ↔
      field.FitsShape value ∧
        ∃ name, field.target = .object name ∧ registry.type? name = some type := by
  simp only [referenced, bind_eq_ok, exists_unit, mapError_eq_ok,
    FieldTraits.checkShape_eq_ok_iff]
  refine and_congr_right fun _ => ?_
  cases htarget : field.target with
  | scalar => simp
  | mapping => simp
  | object name => cases hname : registry.type? name <;> simp [hname]

/-- A field refers to no type just if its target is no object, and the shape is checked in any
case. -/
theorem referenced_eq_ok_none_iff {value : Json} :
    registry.referenced owner field value = .ok none ↔
      field.FitsShape value ∧ field.referencedType? = none := by
  simp only [referenced, bind_eq_ok, exists_unit, mapError_eq_ok,
    FieldTraits.checkShape_eq_ok_iff, FieldTraits.referencedType?]
  refine and_congr_right fun _ => ?_
  cases htarget : field.target with
  | scalar => simp
  | mapping => simp
  | object name => cases hname : registry.type? name <;> simp [hname]

/-- Only objects are read as instances. -/
theorem exists_members_of_instantiate {value : Json} {object : Instance}
    (h : registry.instantiate base value = .ok object) : ∃ members, value = .object members := by
  cases value with
  | object members => exact ⟨members, rfl⟩
  | _ => simp [instantiate] at h

/-- A value that is no object is not read as an instance. -/
theorem instantiate_ne_ok {value : Json} {object : Instance} (noObject : value.isObject = false) :
    registry.instantiate base value ≠ .ok object := by
  intro h
  obtain ⟨members, rfl⟩ := exists_members_of_instantiate h
  cases noObject

/-- An item of a collection of objects of a type, and what it is read as. -/
inductive ReadsItem (registry : Registry) (type : ObjectType) : Json → FieldValue → Prop
  | null : ReadsItem registry type .null (.raw .null)
  | object {item : Json} {object : Instance} (read : registry.instantiate type item = .ok object) :
      ReadsItem registry type item (.object object)

/-- An item of a collection is read as `null`, or as an instance if it is an object. -/
theorem readItem_eq_ok_iff {item : Json} {held : FieldValue} :
    registry.readItem owner field type item = .ok held ↔ registry.ReadsItem type item held := by
  cases item with
  | null =>
    rw [readItem, Except.ok.injEq]
    refine ⟨fun heq => heq ▸ .null, fun r => ?_⟩
    cases r with
    | null => rfl
    | object read => exact absurd read (instantiate_ne_ok rfl)
  | object members =>
    rw [readItem]
    simp only [bind_eq_ok, pure_eq_ok]
    constructor
    · rintro ⟨object, hread, rfl⟩
      exact .object hread
    · rintro (_ | ⟨hread⟩)
      exact ⟨_, hread, rfl⟩
  | _ =>
    refine iff_of_false (by simp [readItem]) fun r => ?_
    cases r with
    | object read => exact absurd read (instantiate_ne_ok rfl)

/-- Items are read one by one, up to the first that cannot be. -/
theorem readItems_eq_mapM (items : List Json) :
    registry.readItems owner field type items =
      items.mapM (registry.readItem owner field type) := by
  induction items with
  | nil => rw [readItems, List.mapM_nil, pure, Applicative.toPure]; rfl
  | cons item rest ih => rw [readItems, List.mapM_cons, ih]

/-- A value that a reply holds for a field, and what it is read as. -/
inductive Reads (registry : Registry) (field : Field) : Json → FieldValue → Prop
  | null : Reads registry field .null (.raw .null)
  | raw {value : Json} (present : value ≠ .null) (unreferenced : field.referencedType? = none)
      (fits : field.FitsShape value) : Reads registry field value (.raw value)
  | object {name : String} {type : ObjectType} {value : Json} {object : Instance}
      (target : field.target = .object name) (found : registry.type? name = some type)
      (single : field.isCollection = false) (read : registry.instantiate type value = .ok object) :
      Reads registry field value (.object object)
  | list {name : String} {type : ObjectType} {items : List Json} {held : List FieldValue}
      (target : field.target = .object name) (found : registry.type? name = some type)
      (collection : field.isCollection = true)
      (read : List.Forall₂ (registry.ReadsItem type) items held) :
      Reads registry field (.list items) (.list held)

/-- A value is read for a field just as the field reads it. -/
theorem readValue_eq_ok_iff {value : Json} {held : FieldValue} :
    registry.readValue owner field value = .ok held ↔ registry.Reads field value held := by
  -- A value is raw, or `referenced` finds the type of its objects.
  have hraw : value ≠ .null → field.FitsShape value ∧ field.referencedType? = none →
      registry.Reads field value (.raw value) :=
    fun present ⟨fits, unreferenced⟩ => .raw present unreferenced fits
  cases value with
  | null =>
    rw [readValue, Except.ok.injEq]
    refine ⟨fun heq => heq ▸ .null, fun r => ?_⟩
    cases r with
    | null => rfl
    | raw present _ _ => exact absurd rfl present
    | object _ _ _ read => exact absurd read (instantiate_ne_ok rfl)
  | list items =>
    rw [readValue, bind_eq_ok]
    constructor
    · rintro ⟨type?, hreferenced, h⟩
      cases type? with
      | none =>
        obtain rfl := pure_eq_ok.mp h
        exact hraw (by simp) (referenced_eq_ok_none_iff.mp hreferenced)
      | some type =>
        obtain ⟨-, name, target, found⟩ := referenced_eq_ok_some_iff.mp hreferenced
        -- Only a collection reads a list, and then item by item.
        dsimp only at h
        split_ifs at h with collection
        simp only [bind_eq_ok, pure_eq_ok, readItems_eq_mapM, mapM_eq_ok_iff,
          readItem_eq_ok_iff] at h
        obtain ⟨objects, read, rfl⟩ := h
        exact .list target found collection read
    · rintro (_ | ⟨_, unreferenced, fits⟩ | ⟨_, _, _, read⟩ | ⟨target, found, collection, read⟩)
      · exact ⟨none, referenced_eq_ok_none_iff.mpr ⟨fits, unreferenced⟩, rfl⟩
      · exact absurd read (instantiate_ne_ok rfl)
      · refine ⟨_, referenced_eq_ok_some_iff.mpr ⟨⟨fun _ => rfl, ?_⟩, _, target, found⟩, ?_⟩
        · intro h
          cases h
        · simp only [collection, if_true, bind_eq_ok, pure_eq_ok, readItems_eq_mapM,
            mapM_eq_ok_iff, readItem_eq_ok_iff]
          exact ⟨_, read, rfl⟩
  | object members =>
    rw [readValue, bind_eq_ok]
    constructor
    · rintro ⟨type?, hreferenced, h⟩
      cases type? with
      | none =>
        obtain rfl := pure_eq_ok.mp h
        exact hraw (by simp) (referenced_eq_ok_none_iff.mp hreferenced)
      | some type =>
        obtain ⟨fits, name, target, found⟩ := referenced_eq_ok_some_iff.mp hreferenced
        simp only [bind_eq_ok, pure_eq_ok] at h
        obtain ⟨object, read, rfl⟩ := h
        refine .object target found ?_ read
        -- A collection would have asked for a list.
        cases collection : field.isCollection with
        | false => rfl
        | true => cases fits.list collection
    · rintro (_ | ⟨_, unreferenced, fits⟩ | ⟨target, found, single, read⟩ | _)
      · exact ⟨none, referenced_eq_ok_none_iff.mpr ⟨fits, unreferenced⟩, rfl⟩
      · refine ⟨_, referenced_eq_ok_some_iff.mpr ⟨⟨?_, fun _ => ?_⟩, _, target, found⟩, ?_⟩
        · simp [single]
        · simp [FieldTraits.acceptsObject, target]
        · simp only [bind_eq_ok, pure_eq_ok]
          exact ⟨_, read, rfl⟩
  | _ =>
    -- What is left are scalars, of which none stands for an object.
    simp only [readValue, bind_eq_ok]
    constructor
    · rintro ⟨type?, hreferenced, h⟩
      cases type? with
      | none =>
        obtain rfl := pure_eq_ok.mp h
        exact hraw (by simp) (referenced_eq_ok_none_iff.mp hreferenced)
      | some type => cases h
    · rintro (_ | ⟨_, unreferenced, fits⟩ | ⟨_, _, _, read⟩ | _)
      · exact ⟨none, referenced_eq_ok_none_iff.mpr ⟨fits, unreferenced⟩, rfl⟩
      · exact absurd read (instantiate_ne_ok rfl)

/-! ## Objects -/

/-- What stands in a reply for a field, if anything does, and what it is read as. -/
inductive ReadsField (registry : Registry) (field : Field) : Option Json → FieldValue → Prop
  | absent : ReadsField registry field none (absentValue field)
  | present {value : Json} {held : FieldValue} (read : registry.Reads field value held) :
      ReadsField registry field (some value) held

/-- What stands under the wire name of a field is read. -/
theorem readMember_eq (members : List (String × Json)) :
    registry.readMember owner field members =
      (Table.get? field.wireQueryName members).elim (.ok (absentValue field))
        (registry.readValue owner field) := by
  induction members with
  | nil => rw [readMember, Table.get?_nil, Option.elim_none]
  | cons entry rest ih =>
    obtain ⟨key, value⟩ := entry
    rw [readMember, Table.get?_cons]
    split_ifs
    · rw [Option.elim_some]
    · exact ih

/-- A field of an object is read from what stands under its wire name, if anything does. -/
theorem readMember_eq_ok_iff {members : List (String × Json)} {held : FieldValue} :
    registry.readMember owner field members = .ok held ↔
      registry.ReadsField field (Table.get? field.wireQueryName members) held := by
  rw [readMember_eq]
  cases Table.get? field.wireQueryName members with
  | none =>
    rw [Option.elim_none, Except.ok.injEq]
    refine ⟨fun heq => heq ▸ .absent, fun r => ?_⟩
    cases r
    rfl
  | some value =>
    rw [Option.elim_some, readValue_eq_ok_iff]
    refine ⟨.present, fun r => ?_⟩
    cases r with
    | present read => exact read

/-- An object is read field by field, as an object of the type that its discriminator chooses. -/
theorem instantiate_eq_ok_iff {value : Json} {object : Instance} :
    registry.instantiate base value = .ok object ↔
      ∃ members, value = .object members ∧
        registry.Resolves base (Table.get? discriminator members) object.type ∧
        List.Forall₂
          (fun field entry => entry.1 = field.label ∧
            registry.ReadsField field (Table.get? field.wireQueryName members) entry.2)
          object.type.fields object.values ∧
        object.changed = [] := by
  -- One field of the type is read as one entry of the instance.
  have hentry : ∀ (type : ObjectType) (members : List (String × Json)) (field : Field) entry,
      (do return (field.label, ← registry.readMember type field members) :
        Except DecodeError (String × FieldValue)) = .ok entry ↔
      entry.1 = field.label ∧
        registry.ReadsField field (Table.get? field.wireQueryName members) entry.2 := by
    rintro type members field ⟨label, held⟩
    simp only [bind_eq_ok, pure_eq_ok, readMember_eq_ok_iff, Prod.mk.injEq]
    constructor
    · rintro ⟨_, read, rfl, rfl⟩
      exact ⟨rfl, read⟩
    · rintro ⟨rfl, read⟩
      exact ⟨_, read, rfl, rfl⟩
  constructor
  · intro h
    obtain ⟨members, rfl⟩ := exists_members_of_instantiate h
    simp only [instantiate, assemble, bind_eq_ok, variant_eq_ok_iff, mapM_eq_ok_iff, hentry,
      pure_eq_ok] at h
    obtain ⟨type, resolves, values, read, rfl⟩ := h
    exact ⟨members, rfl, resolves, read, rfl⟩
  · rintro ⟨members, rfl, resolves, read, unchanged⟩
    obtain ⟨type, values, changed⟩ := object
    simp only at resolves read unchanged
    subst unchanged
    simp only [instantiate, assemble, bind_eq_ok, variant_eq_ok_iff, mapM_eq_ok_iff, hentry,
      pure_eq_ok]
    exact ⟨type, resolves, values, read, rfl⟩

/-- An instance that is read has one value for each field of its type. -/
theorem keys_values_of_instantiate {value : Json} {object : Instance}
    (read : registry.instantiate base value = .ok object) :
    Table.keys object.values = object.type.fields.map (·.label) := by
  obtain ⟨_, -, -, fields, -⟩ := instantiate_eq_ok_iff.mp read
  exact map_eq_of_forall₂ fields fun _ _ h => h.1

end Registry

end TypedQuery
