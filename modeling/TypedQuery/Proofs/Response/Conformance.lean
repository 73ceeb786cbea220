import TypedQuery.Proofs.Response.Decoding
import TypedQuery.Proofs.Schema.Reachable

/-!
# Well-typed replies

`Conforms` says which values are objects of a type, and `Fits` which values a field takes, without a
word about reading: the two are a grammar over the types of a registry, which may refer to each
other in circles. `exists_instantiate_iff` and `exists_decode_iff` say that exactly these values are
read.

The proof is by induction on the size of the value. The types do not get smaller on the way down,
but every object that is looked at stands inside the one before.
-/

namespace TypedQuery

open Checked Json

namespace Registry

variable {registry : Registry} {base type : ObjectType} {field : Field} {value : Json}

mutual

/-- The values that conform to a type: objects with a discriminator that chooses a type and, under
the wire name of each field of this type, nothing, `null` or a value that fits. -/
inductive Conforms (registry : Registry) : ObjectType → Json → Prop
  | object {base type : ObjectType} {members : List (String × Json)}
      (resolves : registry.Resolves base (Table.get? discriminator members) type)
      (fits : ∀ field ∈ type.fields, ∀ value,
        Table.get? field.wireQueryName members = some value → value ≠ .null →
          Fits registry field value) :
      Conforms registry base (.object members)

/-- The values other than `null` that fit a field, by what the field refers to. What each field asks
for is said at once in `fits_iff`. -/
inductive Fits (registry : Registry) : Field → Json → Prop
  | scalar {field : Field} {value : Json} (target : field.target = .scalar)
      (list : field.isCollection = true → value.isList = true)
      (noObject : value.isObject = false) : Fits registry field value
  | mapping {field : Field} {value : Json} (target : field.target = .mapping)
      (list : field.isCollection = true → value.isList = true) : Fits registry field value
  | one {field : Field} {value : Json} {name : String} {type : ObjectType}
      (target : field.target = .object name) (found : registry.type? name = some type)
      (single : field.isCollection = false) (conforms : Conforms registry type value) :
      Fits registry field value
  | many {field : Field} {items : List Json} {name : String} {type : ObjectType}
      (target : field.target = .object name) (found : registry.type? name = some type)
      (collection : field.isCollection = true)
      (conform : ∀ item ∈ items, item ≠ .null → Conforms registry type item) :
      Fits registry field (.list items)

end

/-- A value fits a field that asks for a list, refuses objects or refers to a type only if it is
that list, no object, or made of objects of the type. -/
theorem fits_iff :
    registry.Fits field value ↔
      (field.isCollection = true → value.isList = true) ∧
      (field.target = .scalar → value.isObject = false) ∧
      ∀ name, field.target = .object name → ∃ type, registry.type? name = some type ∧
        if field.isCollection then
          ∃ items, value = .list items ∧ ∀ item ∈ items, item = .null ∨ registry.Conforms type item
        else registry.Conforms type value := by
  constructor
  · rintro (⟨target, list, noObject⟩ | ⟨target, list⟩ | ⟨target, found, single, conforms⟩ |
      ⟨target, found, collection, conform⟩)
    · exact ⟨list, fun _ => noObject, by simp [target]⟩
    · exact ⟨list, by simp [target], by simp [target]⟩
    · refine ⟨by simp [single], by simp [target], fun name h => ?_⟩
      rw [target, Target.object.injEq] at h
      subst h
      exact ⟨_, found, by rwa [if_neg (by simp [single])]⟩
    · refine ⟨fun _ => rfl, fun _ => rfl, fun name h => ?_⟩
      rw [target, Target.object.injEq] at h
      subst h
      refine ⟨_, found, ?_⟩
      rw [if_pos collection]
      exact ⟨_, rfl, fun item hitem => or_iff_not_imp_left.mpr (conform item hitem)⟩
  · rintro ⟨list, noObject, reference⟩
    -- What the field refers to decides which form of fitting is left.
    cases target : field.target with
    | scalar => exact .scalar target list (noObject target)
    | mapping => exact .mapping target list
    | object name =>
      obtain ⟨type, found, h⟩ := reference name target
      split at h
      · rename_i collection
        obtain ⟨items, rfl, conform⟩ := h
        exact .many target found collection fun item hitem => (conform item hitem).resolve_left
      · rename_i single
        exact .one target found (Bool.not_eq_true _ ▸ single) h

/-! ## Reading what conforms -/

/-- An object is read when each field of its type is. -/
theorem exists_instantiate_eq_ok_iff :
    (∃ object, registry.instantiate base value = .ok object) ↔
      ∃ members, value = .object members ∧ ∃ type,
        registry.Resolves base (Table.get? discriminator members) type ∧
        ∀ field ∈ type.fields, ∃ held,
          registry.ReadsField field (Table.get? field.wireQueryName members) held := by
  simp only [instantiate_eq_ok_iff]
  constructor
  · rintro ⟨object, members, rfl, resolves, read, -⟩
    refine ⟨members, rfl, object.type, resolves, fun field hfield => ?_⟩
    obtain ⟨entry, -, held⟩ := exists_forall₂_iff.mp ⟨_, read⟩ field hfield
    exact ⟨entry.2, held⟩
  · rintro ⟨members, rfl, type, resolves, read⟩
    -- The fields are read independently of each other, so their values can be put together.
    have hentries : ∀ field ∈ type.fields, ∃ entry : String × FieldValue, entry.1 = field.label ∧
        registry.ReadsField field (Table.get? field.wireQueryName members) entry.2 := by
      intro field hfield
      obtain ⟨held, read⟩ := read field hfield
      exact ⟨(field.label, held), rfl, read⟩
    obtain ⟨values, hvalues⟩ := exists_forall₂_iff.mpr hentries
    exact ⟨⟨type, values, []⟩, members, rfl, resolves, hvalues, rfl⟩

/-- A value other than `null` is read for a field exactly when it fits, if the same is known of its
items and of the value itself as objects. -/
theorem exists_reads_iff (fieldFits : field.TypeFits) (present : value ≠ .null)
    (objects : ∀ {name type}, registry.type? name = some type → ∀ part : Json,
      sizeOf part ≤ sizeOf value →
        ((∃ object, registry.instantiate type part = .ok object) ↔ registry.Conforms type part)) :
    (∃ held, registry.Reads field value held) ↔ registry.Fits field value := by
  constructor
  · rintro ⟨held, read⟩
    cases read with
    | null => exact absurd rfl present
    -- The shape that was checked is what a field without a type asks for.
    | raw _ unreferenced fits =>
      refine fits_iff.mpr ⟨fits.list, fun target => ?_, fun name target => ?_⟩
      · rw [← Bool.not_eq_true]
        exact fun h => fieldFits.acceptsObject_iff.mp (fits.object h) target
      · simp [FieldTraits.referencedType?, target] at unreferenced
    | object target found single read =>
      exact .one target found single ((objects found _ (Nat.le_refl _)).mp ⟨_, read⟩)
    | list target found collection read =>
      refine .many target found collection fun item hitem hnull => ?_
      obtain ⟨held, read⟩ := exists_forall₂_iff.mp ⟨_, read⟩ item hitem
      cases read with
      | null => exact absurd rfl hnull
      | object read =>
        have hsize := Nat.le_of_lt (sizeOf_lt_of_mem hitem)
        exact (objects found item hsize).mp ⟨_, read⟩
  · intro fits
    cases fits with
    | scalar target list noObject =>
      refine ⟨.raw value, .raw present (by simp [FieldTraits.referencedType?, target]) ⟨list, ?_⟩⟩
      simp [noObject]
    | mapping target list =>
      refine ⟨.raw value, .raw present (by simp [FieldTraits.referencedType?, target]) ⟨list, ?_⟩⟩
      exact fun _ => fieldFits.acceptsObject_iff.mpr (by simp [target])
    | one target found single conforms =>
      obtain ⟨object, read⟩ := (objects found _ (Nat.le_refl _)).mpr conforms
      exact ⟨.object object, .object target found single read⟩
    | @many _ items _ type target found collection conform =>
      -- Here `null` is no object, but it is an item that is read.
      have hitems : ∀ item ∈ items, ∃ held, registry.ReadsItem type item held := by
        intro item hitem
        by_cases hnull : item = .null
        · subst hnull
          exact ⟨.raw .null, .null⟩
        · obtain ⟨object, read⟩ :=
            (objects found item (Nat.le_of_lt (sizeOf_lt_of_mem hitem))).mpr
              (conform item hitem hnull)
          exact ⟨.object object, .object read⟩
      obtain ⟨held, read⟩ := exists_forall₂_iff.mpr hitems
      exact ⟨.list held, .list target found collection read⟩

/-- The type that a discriminator chooses is built. -/
theorem Resolves.built {discriminator? : Option Json} (holds : registry.HoldsBuilt)
    (built : base.Built) (resolves : registry.Resolves base discriminator? type) : type.Built := by
  cases resolves with
  | implementer _ found => exact holds.implementer found
  | _ => exact built

/-- The values that are read as instances of a type are those that conform to it. -/
theorem exists_instantiate_iff (holds : registry.HoldsBuilt) (built : base.Built) :
    (∃ object, registry.instantiate base value = .ok object) ↔ registry.Conforms base value := by
  induction value using size_induction generalizing base with
  | step value ih =>
    rw [exists_instantiate_eq_ok_iff]
    -- What stands in a member is smaller than the value, so the hypothesis speaks of it.
    have hfield : ∀ {members : List (String × Json)} {type : ObjectType} {field : Field}
        {part : Json}, value = .object members → type.Built → field ∈ type.fields → part ≠ .null →
        Table.get? field.wireQueryName members = some part →
        ((∃ held, registry.Reads field part held) ↔ registry.Fits field part) := by
      rintro members type field part rfl htype hfield present hget
      refine exists_reads_iff (htype.typeFits hfield) present fun found smaller hsize => ?_
      have hless := Nat.lt_of_le_of_lt hsize (sizeOf_lt_of_get?_eq_some hget)
      exact ih smaller hless (holds.type found)
    constructor
    · rintro ⟨members, rfl, type, resolves, read⟩
      refine .object resolves fun field hmem part hget present => ?_
      rw [← hfield rfl (resolves.built holds built) hmem present hget]
      obtain ⟨held, read⟩ := read field hmem
      rw [hget] at read
      cases read with
      | present read => exact ⟨held, read⟩
    · rintro ⟨resolves, fits⟩
      refine ⟨_, rfl, _, resolves, fun field hmem => ?_⟩
      cases hget : Table.get? field.wireQueryName _ with
      | none => exact ⟨_, .absent⟩
      | some part =>
        by_cases hnull : part = .null
        · subst hnull
          exact ⟨_, .present .null⟩
        · obtain ⟨held, read⟩ := (hfield rfl (resolves.built holds built) hmem hnull hget).mpr
            (fits field hmem part hget hnull)
          exact ⟨held, .present read⟩

/-! ## Payloads -/

/-- The values that a root takes: `null`, one object of its type, or a list of them. -/
inductive FitsRoot (registry : Registry) (type : ObjectType) : Json → Prop
  | null : FitsRoot registry type .null
  | one {value : Json} (conforms : registry.Conforms type value) : FitsRoot registry type value
  | many {items : List Json}
      (conform : ∀ item ∈ items, item = .null ∨ registry.Conforms type item) :
      FitsRoot registry type (.list items)

/-- The data that a payload may carry: none, or values under roots of registered types. -/
inductive FitsData (registry : Registry) : Option Json → Prop
  | absent : FitsData registry none
  | null : FitsData registry (some .null)
  | roots {data : List (String × Json)}
      (fits : ∀ entry ∈ data, ∃ type, registry.Registered type ∧ type.HasRoot entry.1 ∧
        registry.FitsRoot type entry.2) :
      FitsData registry (some (.object data))

/-- The payloads without errors whose data is well typed. -/
inductive Accepts (registry : Registry) : Json → Prop
  | object {members : List (String × Json)}
      (noErrors : Payload.NoErrors (Table.get? "errors" members))
      (data : registry.FitsData (Table.get? "data" members)) : Accepts registry (.object members)

/-- The objects under a root are read just if the value fits the root. -/
theorem exists_rootItems_iff (holds : registry.HoldsBuilt) (built : type.Built) :
    (∃ objects, List.Forall₂ (fun item object => registry.instantiate type item = .ok object)
      (rootItems value) objects) ↔ registry.FitsRoot type value := by
  rw [exists_forall₂_iff]
  simp only [exists_instantiate_iff holds built]
  constructor
  · intro conform
    -- A `null` among the values of a root is passed over, so it need not conform.
    cases value with
    | null => exact .null
    | list items =>
      refine .many fun item hitem => or_iff_not_imp_left.mpr fun hnull => ?_
      refine conform item (List.mem_filter.mpr ⟨hitem, ?_⟩)
      cases item with
      | null => exact absurd rfl hnull
      | _ => rfl
    | _ => exact .one (conform _ List.mem_cons_self)
  · rintro (_ | conforms | conform) item hitem
    · cases hitem
    · obtain ⟨members, rfl⟩ : ∃ members, value = .object members := by
        cases conforms
        exact ⟨_, rfl⟩
      rwa [List.mem_singleton.mp hitem]
    · obtain ⟨hitem, hpresent⟩ := List.mem_filter.mp hitem
      refine (conform item hitem).resolve_left ?_
      rintro rfl
      cases hpresent

/-- The data of a payload is read just if it fits. -/
theorem exists_readsData_iff (coherent : registry.Coherent) (holds : registry.HoldsBuilt)
    {data? : Option Json} :
    (∃ groups, registry.ReadsData data? groups) ↔ registry.FitsData data? := by
  -- A root is looked up in two tables, and coherence says that this finds the registered type of
  -- the root.
  have hroots : ∀ data : List (String × Json), (∃ groups, registry.decodeRoots data = .ok groups) ↔
      ∀ entry ∈ data, ∃ type, registry.Registered type ∧ type.HasRoot entry.1 ∧
        registry.FitsRoot type entry.2 := by
    intro data
    simp only [decodeRoots_eq_ok_iff, exists_forall₂_iff, coherent.typeOfRoot?_iff]
    refine forall₂_congr fun entry hentry => ?_
    constructor
    · rintro ⟨group, -, type, ⟨registered, hroot⟩, read⟩
      exact ⟨type, registered, hroot,
        (exists_rootItems_iff holds (holds.type registered)).mp ⟨_, read⟩⟩
    · rintro ⟨type, registered, hroot, fits⟩
      obtain ⟨objects, read⟩ := (exists_rootItems_iff holds (holds.type registered)).mpr fits
      exact ⟨(entry.1, objects), rfl, type, ⟨registered, hroot⟩, read⟩
  constructor
  · rintro ⟨groups, _ | _ | read⟩
    · exact .absent
    · exact .null
    · exact .roots ((hroots _).mp ⟨groups, read⟩)
  · rintro (_ | _ | fits)
    · exact ⟨[], .absent⟩
    · exact ⟨[], .null⟩
    · obtain ⟨groups, read⟩ := (hroots _).mpr fits
      exact ⟨groups, .roots read⟩

/-- The payloads that a reachable registry decodes are the well-typed ones. -/
theorem exists_decode_iff (reachable : registry.Reachable) {payload : Json}
    (distinct : payload.hasDistinctKeys = true) :
    (∃ results, registry.decode payload = .ok results) ↔ registry.Accepts payload := by
  have hdata : ∀ data?, (∃ groups, registry.ReadsData data? groups) ↔ registry.FitsData data? :=
    fun _ => exists_readsData_iff reachable.coherent reachable.holdsBuilt
  simp only [decode_eq_ok_iff distinct]
  constructor
  · rintro ⟨results, members, rfl, noErrors, read⟩
    exact .object noErrors ((hdata _).mp ⟨_, read⟩)
  · rintro ⟨noErrors, data⟩
    obtain ⟨groups, read⟩ := (hdata _).mpr data
    exact ⟨⟨groups⟩, _, rfl, noErrors, read⟩

/-- An atlas stands where a book is expected; a book does not stand where a list is. -/
theorem library_accepts_list :
    library.Accepts (.object [("data", .object [("shelves", .list [.null, .object [
      ("label", .string "maps"),
      ("books", .list [
        .object [("__typename", .string "Atlas"), ("mapScale", .string "1:25000")],
        .null])]])])]) ∧
    ¬ library.Accepts (.object [("data", .object [("shelves", .object [
      ("books", .object [("title", .string "Maps")])])])]) := by
  constructor
  · exact (exists_decode_iff library_reachable (by decide)).mp ⟨_, rfl⟩
  · intro accepts
    obtain ⟨results, h⟩ := (exists_decode_iff library_reachable (by decide)).mpr accepts
    cases h

end Registry

end TypedQuery
