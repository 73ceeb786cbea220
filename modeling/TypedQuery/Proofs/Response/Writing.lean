import TypedQuery.Proofs.Json.Distinct
import TypedQuery.Proofs.Schema.Building
import TypedQuery.Response.Instance

/-!
# What a written instance holds

An instance is written with its typename under the discriminator and each set field under its wire
name. The wire names of a built type are distinct and none is the discriminator, so each of these is
found again by its key.
-/

namespace TypedQuery

open Json

/-- Items are written one by one, and an unset one as `null`. -/
theorem replyItems_eq_map (items : List FieldValue) :
    replyItems items = items.map fun item => item.toJson?.getD .null := by
  induction items with
  | nil => rw [replyItems, List.map_nil]
  | cons item rest ih => rw [replyItems, ih, List.map_cons]

/-- Values of fields are written one by one, and unset ones not at all. -/
theorem replyValues_eq_map (values : List (String × FieldValue)) :
    replyValues values = values.map fun entry => (entry.1, entry.2.toJson?) := by
  induction values with
  | nil => rw [replyValues, List.map_nil]
  | cons entry rest ih =>
    obtain ⟨name, value⟩ := entry
    rw [replyValues, ih, List.map_cons]

/-- An instance is written as the object of its members. -/
theorem Instance.toJson_eq (object : Instance) :
    object.toJson = .object (replyMembers object.type (replyValues object.values)) := by
  obtain ⟨type, values, changed⟩ := object
  rw [Instance.toJson]

section

variable {type : ObjectType} {written : Table (Option Json)}

/-- The members of a written instance stand as they are written. -/
theorem replyMembers_eq (separate : SeparateFields type.fields) :
    replyMembers type written =
      (discriminator, .string type.typename) ::
        type.fields.filterMap fun field =>
          ((written.get? field.label).join).map (field.wireQueryName, ·) := by
  have hsub := @Table.keys_filterMap_sublist _ _ (fun field : Field => field.wireQueryName)
    (fun field => (written.get? field.label).join) type.fields
  refine Table.ofWrites_eq_self (List.nodup_cons.mpr ⟨fun h => ?_, separate.wireNames.sublist hsub⟩)
  obtain ⟨field, hfield, hname⟩ := List.mem_map.mp (hsub.subset h)
  exact separate.wireName_ne field hfield hname

/-- A written instance has its typename under the discriminator, since no field has this wire
name. -/
theorem get?_replyMembers_discriminator (separate : SeparateFields type.fields) :
    Table.get? discriminator (replyMembers type written) = some (.string type.typename) := by
  rw [replyMembers_eq separate, Table.get?_cons, if_pos rfl]

/-- A written instance has under each wire name what is written of this field. -/
theorem get?_replyMembers (separate : SeparateFields type.fields) {field : Field}
    (hfield : field ∈ type.fields) :
    Table.get? field.wireQueryName (replyMembers type written) =
      (written.get? field.label).join := by
  rw [replyMembers_eq separate, Table.get?_cons, if_neg (separate.wireName_ne field hfield).symm]
  exact Table.get?_filterMap (fun field : Field => field.wireQueryName) _ separate.wireNames hfield

/-- Nothing but the discriminator and the wire names of fields is written. -/
theorem mem_keys_replyMembers {key : String} (h : key ∈ Table.keys (replyMembers type written)) :
    key = discriminator ∨ ∃ field ∈ type.fields, field.wireQueryName = key := by
  obtain ⟨member, hmember, rfl⟩ := List.mem_map.mp h
  rcases List.mem_cons.mp (Table.mem_of_mem_ofWrites hmember) with rfl | hmember
  · exact .inl rfl
  · obtain ⟨field, hfield, hvalue⟩ := List.mem_filterMap.mp hmember
    obtain ⟨value, -, rfl⟩ := Option.map_eq_some_iff.mp hvalue
    exact .inr ⟨field, hfield, rfl⟩

end

theorem join_get?_replyValues (values : List (String × FieldValue)) (label : String) :
    ((replyValues values).get? label).join = (Table.get? label values).bind (·.toJson?) := by
  rw [replyValues_eq_map, Table.get?_map_values]
  cases Table.get? label values <;> rfl

/-- The written value of a field, when every field has one entry. -/
theorem get?_replyValues {values : List (String × FieldValue)}
    (distinct : (Table.keys values).Nodup) {entry : String × FieldValue} (h : entry ∈ values) :
    (Table.get? entry.1 (replyValues values)).join = entry.2.toJson? := by
  rw [join_get?_replyValues, (Table.get?_eq_some_iff distinct).mpr h, Option.bind_some]

/-- A member of a written instance is its discriminator or the written value of a field. -/
theorem mem_replyMembers {type : ObjectType} {values : List (String × FieldValue)}
    {member : String × Json} (h : member ∈ replyMembers type (replyValues values)) :
    member = (discriminator, .string type.typename) ∨
      ∃ entry ∈ values, entry.2.toJson? = some member.2 := by
  rcases List.mem_cons.mp (Table.mem_of_mem_ofWrites h) with rfl | h
  · exact .inl rfl
  · right
    obtain ⟨field, -, hmember⟩ := List.mem_filterMap.mp h
    obtain ⟨value, hvalue, rfl⟩ := Option.map_eq_some_iff.mp hmember
    have hmem := Table.mem_of_get?_eq_some (Option.join_eq_some_iff.mp hvalue)
    rw [replyValues_eq_map] at hmem
    obtain ⟨entry, hentry, heq⟩ := List.mem_map.mp hmem
    exact ⟨entry, hentry, congrArg Prod.snd heq⟩

end TypedQuery
