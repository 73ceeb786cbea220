import TypedQuery.Proofs.Json.Same
import TypedQuery.Proofs.Response.Conformance
import TypedQuery.Proofs.Response.Writing

/-!
# Canonical objects come back as they were

An object is canonical when it is as an instance is written: it names its own type, holds nothing
that this type does not know, and leaves out no field that has a default (`Canonical`). Reading a
canonical object and writing the instance gives the object again, up to the order of keys
(`toJson_same_of_canonical`): no member is lost on the way, none is invented, and none ends up under
another key.

The wire names of a type are what carries this. Each key of the object belongs to one field, which
reads it and writes it back, and every other field reads and writes nothing there.
-/

namespace TypedQuery

open Checked Json

/-- Whether an object of a type holds the typename of the type itself, only keys that the type
knows, and a value for every field that has a default. -/
structure ObjectType.Spells (type : ObjectType) (members : List (String × Json)) : Prop where
  typename : Table.get? discriminator members = some (.string type.typename)
  known : ∀ key ∈ Table.keys members,
    key = discriminator ∨ ∃ field ∈ type.fields, field.wireQueryName = key
  defaults : ∀ field ∈ type.fields, field.default ≠ none → field.wireQueryName ∈ Table.keys members

namespace Registry

variable {registry : Registry} {base type : ObjectType} {field : Field} {value : Json}
  {members : List (String × Json)} {object : Instance}

/-- The objects that spell out their types, they themselves and every object that a field which
refers to a type holds. -/
inductive Canonical (registry : Registry) : ObjectType → Json → Prop
  | object {base type : ObjectType} {members : List (String × Json)}
      (resolves : registry.Resolves base (Table.get? discriminator members) type)
      (spells : type.Spells members)
      (below : ∀ field ∈ type.fields, ∀ name target value, field.target = .object name →
        registry.type? name = some target →
        Table.get? field.wireQueryName members = some value →
        ∀ part ∈ rootItems value, Canonical registry target part) :
      Canonical registry base (.object members)

/-! ## One field -/

/-- The value of a field is written as it was read, if this is known of the objects in it. -/
theorem Reads.exists_same {held : FieldValue} (read : registry.Reads field value held)
    (distinct : value.hasDistinctKeys = true)
    (objects : ∀ {name target part object}, field.target = .object name →
      registry.type? name = some target → part ∈ rootItems value →
      registry.instantiate target part = .ok object → object.toJson.same part = true) :
    ∃ written, held.toJson? = some written ∧ written.same value = true := by
  cases read with
  | null => exact ⟨.null, by rw [FieldValue.toJson?], same_self distinct⟩
  | raw => exact ⟨value, by rw [FieldValue.toJson?], same_self distinct⟩
  | @object name target _ object reference found _ read =>
    obtain ⟨members, rfl⟩ := exists_members_of_instantiate read
    have hpart : Json.object members ∈ rootItems (.object members) := List.mem_singleton_self _
    exact ⟨object.toJson, by rw [FieldValue.toJson?], objects reference found hpart read⟩
  | @list name target items held reference found _ read =>
    refine ⟨.list (replyItems held), by rw [FieldValue.toJson?], ?_⟩
    rw [same, sameItems_iff, replyItems_eq_map, List.forall₂_map_left_iff]
    refine (forall₂_imp_of_mem read fun item hitem entry _ readItem => ?_).flip
    -- Items of a collection are written where they were read, `null` among them.
    cases readItem with
    | null => exact same_self rfl
    | @object _ object read =>
      show (((FieldValue.object object).toJson?).getD .null).same item = true
      rw [FieldValue.toJson?, Option.getD_some]
      obtain ⟨members, rfl⟩ := exists_members_of_instantiate read
      have hpart : Json.object members ∈ rootItems (.list items) :=
        List.mem_filter.mpr ⟨hitem, rfl⟩
      exact objects reference found hpart read

/-- What stands under the wire name of a field is written again, and nothing is written if nothing
stands there. -/
theorem ReadsField.rel_toJson? {value? : Option Json} {held : FieldValue}
    (read : registry.ReadsField field value? held)
    (absent : value? = none → field.default = none)
    (present : ∀ value, value? = some value → registry.Reads field value held →
      ∃ written, held.toJson? = some written ∧ written.same value = true) :
    Option.Rel (fun written value => written.same value = true) held.toJson? value? := by
  cases read with
  | absent =>
    rw [absentValue, absent rfl, FieldValue.toJson?]
    exact .none
  | present read =>
    obtain ⟨written, hwritten, hsame⟩ := present _ rfl read
    rw [hwritten]
    exact .some hsame

/-! ## One object -/

/-- An object that spells out its type is written again if each of its fields is. -/
theorem same_toJson_of_fields (separate : SeparateFields object.type.fields)
    (spells : object.type.Spells members) (distinct : (Table.keys members).Nodup)
    (fields : List.Forall₂
      (fun field entry => entry.1 = field.label ∧
        Option.Rel (fun written value => written.same value = true) entry.2.toJson?
          (Table.get? field.wireQueryName members))
      object.type.fields object.values) :
    object.toJson.same (.object members) = true := by
  have hlabels : Table.keys object.values = object.type.fields.map (·.label) :=
    map_eq_of_forall₂ fields fun _ _ h => h.1
  have hkeys : (Table.keys object.values).Nodup := hlabels ▸ separate.labels
  have hflip : List.Forall₂ (fun entry (field : Field) => entry.1 = field.label ∧
      Option.Rel (fun written value => written.same value = true) entry.2.toJson?
        (Table.get? field.wireQueryName members)) object.values object.type.fields :=
    fields.flip
  have hwritten : (Table.keys (replyMembers object.type (replyValues object.values))).Nodup :=
    Table.nodup_keys_ofWrites _
  rw [Instance.toJson_eq, same_object_iff hwritten distinct]
  intro key
  -- A key is the discriminator, the name of one field, or unknown to the type.
  by_cases hdiscriminator : key = discriminator
  · rw [hdiscriminator, get?_replyMembers_discriminator separate, spells.typename]
    exact .some (same_self rfl)
  · by_cases hfield : ∃ field ∈ object.type.fields, field.wireQueryName = key
    · obtain ⟨field, hfield, rfl⟩ := hfield
      obtain ⟨entry, hentry, hlabel, hrel⟩ := exists_left_of_mem hflip hfield
      rwa [get?_replyMembers separate hfield, ← hlabel, get?_replyValues hkeys hentry]
    · -- Neither side has a key that the type does not know.
      have hwritten : key ∉ Table.keys (replyMembers object.type (replyValues object.values)) :=
        fun hmem => (mem_keys_replyMembers hmem).elim hdiscriminator hfield
      have hmembers : key ∉ Table.keys members :=
        fun hmem => (spells.known key hmem).elim hdiscriminator hfield
      rw [Table.get?_eq_none_iff.mpr hwritten, Table.get?_eq_none_iff.mpr hmembers]
      exact .none

/-! ## Whole values -/

/-- A canonical object is written again, up to the order of keys at every depth, by the instance
that is read from it. -/
theorem toJson_same_of_canonical (reachable : registry.Reachable)
    (registered : registry.Registered base) (distinct : value.hasDistinctKeys = true)
    (read : registry.instantiate base value = .ok object)
    (canonical : registry.Canonical base value) : object.toJson.same value = true := by
  have holds := reachable.holdsBuilt
  induction value using size_induction generalizing base object with
  | step value ih =>
    obtain ⟨members, rfl, resolves, fields, -⟩ := instantiate_eq_ok_iff.mp read
    obtain ⟨chosen, spells, below⟩ := canonical
    obtain rfl := chosen.unique resolves
    obtain ⟨hkeys, hbelow⟩ := hasDistinctKeys_object_iff.mp distinct
    have hbuilt := resolves.built holds (holds.type registered)
    -- The object itself is settled by its fields; what is left is each of them on its own.
    refine same_toJson_of_fields hbuilt.separate spells hkeys ?_
    refine forall₂_imp_of_mem fields fun field hfield entry _ h => ⟨h.1, ?_⟩
    refine h.2.rel_toJson? (fun habsent => ?_) fun part hget hread => ?_
    · by_contra hdefault
      exact Table.get?_eq_none_iff.mp habsent (spells.defaults field hfield hdefault)
    · -- The parts that are instantiated stand inside a member, so the induction reaches them.
      have hpart := hbelow _ (Table.mem_of_get?_eq_some hget)
      have hsize := sizeOf_lt_of_get?_eq_some hget
      refine hread.exists_same hpart fun reference found hitem hinstance => ?_
      have hsmaller := Nat.lt_of_le_of_lt (sizeOf_le_of_mem_rootItems hitem) hsize
      have hdistinct := hasDistinctKeys_of_mem_rootItems hpart hitem
      have hcanonical := below field hfield _ _ part reference found hget _ hitem
      exact ih _ hsmaller (reachable.coherent.registered found) hdistinct hinstance hcanonical

/-- A shelf that spells out its type, with its keys in no particular order. -/
def crowdedShelf : Json :=
  .object [
    ("books", .list [
      .null, .object [("mapScale", .ofInt 5), ("__typename", .string "Atlas")]]),
    ("floor", .ofInt 2),
    ("__typename", .string "Shelf")]

/-- The shelf with an atlas among its books comes back as it was, up to the order of keys. -/
theorem crowdedShelf_toJson_same :
    ∃ object, library.instantiate (libraryType "shelf") crowdedShelf = .ok object ∧
      object.toJson.same crowdedShelf = true := by
  have hatlas : library.Canonical (libraryType "book")
      (.object [("mapScale", .ofInt 5), ("__typename", .string "Atlas")]) := by
    refine .object (.implementer (by decide) rfl) ⟨rfl, by decide, by decide⟩ ?_
    -- No field of an atlas refers to a type.
    exact List.forall_mem_cons.mpr ⟨nofun, List.forall_mem_cons.mpr ⟨nofun, by simp⟩⟩
  have hbooks : ∀ part ∈ rootItems (.list [
      .null, .object [("mapScale", .ofInt 5), ("__typename", .string "Atlas")]]),
      library.Canonical (libraryType "book") part :=
    List.forall_mem_singleton.mpr hatlas
  have hshelf : library.Canonical (libraryType "shelf") crowdedShelf := by
    refine .object .own ⟨rfl, by decide, by decide⟩ ?_
    refine List.forall_mem_cons.mpr ⟨nofun, List.forall_mem_cons.mpr ⟨?_,
      List.forall_mem_cons.mpr ⟨?_, List.forall_mem_singleton.mpr nofun⟩⟩⟩
    · intro name target value reference found hget
      cases hget
    · rintro name target value ⟨⟩ ⟨⟩ ⟨⟩
      exact hbooks
  have hregistered : library.Registered (libraryType "shelf") := rfl
  exact ⟨_, rfl, toJson_same_of_canonical library_reachable hregistered (by decide) rfl hshelf⟩

end Registry

end TypedQuery
