import TypedQuery.Proofs.Response.Decoding
import TypedQuery.Proofs.Response.Writing
import TypedQuery.Proofs.Schema.Reachable

/-!
# Decoded results written and decoded again

Instances that come out of a reply are written in a fuller form than they came in: the discriminator
is always there, defaults stand for what was left out, and a root always holds a list. Decoding the
written form gives the same instances (`decode_reply`).

## What has to hold of a registry

The discriminator that is written is the typename of the instance's own type. It leads back to this
type if implementers are keyed by their own typenames (`KeyedByTypename`), as declarations and
documents key them. A default that is written is read as the value of its field, so it must be one
(`defaultFits`).
-/

namespace TypedQuery

open Checked Json

/-! ## Instances without changes -/

mutual

/-- Whether no field of an instance, or of one inside it, was set since it was made. -/
def Instance.isClean : Instance → Bool
  | ⟨_, values, changed⟩ => changed.isEmpty && valuesAreClean values

/-- Whether the instances inside a value are clean. -/
def FieldValue.isClean : FieldValue → Bool
  | .unset | .raw _ => true
  | .object value => value.isClean
  | .list items => itemsAreClean items

/-- Whether the instances inside a list are clean. -/
def itemsAreClean : List FieldValue → Bool
  | [] => true
  | item :: rest => item.isClean && itemsAreClean rest

/-- Whether the instances inside the values of fields are clean. -/
def valuesAreClean : List (String × FieldValue) → Bool
  | [] => true
  | (_, value) :: rest => value.isClean && valuesAreClean rest

end

/-- Items are clean just if each of them is. -/
theorem itemsAreClean_iff {items : List FieldValue} :
    itemsAreClean items = true ↔ ∀ item ∈ items, item.isClean = true := by
  induction items with
  | nil => simp [itemsAreClean]
  | cons item rest ih => rw [itemsAreClean, Bool.and_eq_true, ih, List.forall_mem_cons]

/-- Values of fields are clean just if each of them is. -/
theorem valuesAreClean_iff {values : List (String × FieldValue)} :
    valuesAreClean values = true ↔ ∀ entry ∈ values, entry.2.isClean = true := by
  induction values with
  | nil => simp [valuesAreClean]
  | cons entry rest ih => rw [valuesAreClean, Bool.and_eq_true, ih, List.forall_mem_cons]

/-- An instance is clean just if no field of it changed and all its values are clean. -/
theorem Instance.isClean_iff {object : Instance} :
    object.isClean = true ↔
      object.changed = [] ∧ ∀ entry ∈ object.values, entry.2.isClean = true := by
  obtain ⟨type, values, changed⟩ := object
  rw [Instance.isClean, Bool.and_eq_true, List.isEmpty_iff, valuesAreClean_iff]

/-! ## Registries -/

/-- Whether the default of a field, if it has one, is `null` or a value that the field keeps raw. -/
def Field.defaultFits (field : Field) (owner : String) : Bool :=
  match field.default with
  | none | some .null => true
  | some value =>
    field.referencedType?.isNone && (field.checkShape owner value).isOk && value.hasDistinctKeys

namespace Registry

variable {registry : Registry} {base type : ObjectType} {field : Field} {held : FieldValue}
  {object : Instance}

/-- The types that a registry finds by a name, a root or a discriminator. -/
inductive Holds (registry : Registry) (type : ObjectType) : Prop
  | named {name : String} (found : registry.type? name = some type)
  | root {root : String} (found : registry.typeOfRoot? root = some type)
  | implementer {base typename : String} (found : registry.implementer? base typename = some type)

/-- Whether every implementer stands for the typename that is its own. -/
def KeyedByTypename (registry : Registry) : Prop :=
  ∀ base typename type, registry.implementer? base typename = some type → type.typename = typename

/-- The registries whose results can be written and decoded again. -/
structure Replayable (registry : Registry) : Prop where
  built : ∀ {type}, registry.Holds type → type.Built
  keyed : registry.KeyedByTypename
  defaults : ∀ {type}, registry.Holds type → ∀ field ∈ type.fields,
    field.defaultFits type.name = true

/-! ## Implementers under their own typenames -/

/-- An implementer that is put under its own typename keeps all of them so. -/
theorem KeyedByTypename.insertImplementer (keyed : registry.KeyedByTypename) (name : String)
    (type : ObjectType) : (registry.insertImplementer name type.typename type).KeyedByTypename := by
  intro base typename found h
  rw [implementer?_insertImplementer] at h
  split at h
  · rename_i hkey
    rw [← Option.some.inj h, hkey.2]
  · exact keyed _ _ _ h

/-- A declaration puts an implementer under its own typename, if it puts one anywhere. -/
theorem KeyedByTypename.declare (keyed : registry.KeyedByTypename) {declaration : TypeDeclaration}
    {after : Registry} (h : registry.declare declaration = .ok (after, type)) :
    after.KeyedByTypename := by
  obtain ⟨above, -, -, -, -, rfl⟩ := declare_eq_ok_iff.mp h
  intro base typename found hfound
  rw [implementer?_insertBelow] at hfound
  split at hfound
  · rename_i hkey
    rw [← Option.some.inj hfound, hkey.2]
  · exact keyed _ _ _ hfound

/-- A document keys the implementers that it adds by their own typenames, also when it stops
early. -/
theorem KeyedByTypename.load (keyed : registry.KeyedByTypename) (document : SchemaDocument) :
    (registry.perform (.load document)).KeyedByTypename := by
  have htypes := SchemaDocument.declareTypes_invariant (p := fun r => r.KeyedByTypename)
    (fun keyed _ h => KeyedByTypename.declare keyed h) document.types keyed
  rw [perform, SchemaDocument.loadInto]
  split
  -- The first pass only declares types, and the second only adds implementers.
  · rename_i after heq
    rw [heq] at htypes
    refine SchemaDocument.addImplementers_invariant (p := fun r => r.KeyedByTypename)
      (fun keyed hadd => ?_) _ htypes
    obtain ⟨base, concrete, -, -, hadd⟩ := SchemaDocument.addImplementer_eq_ok_iff.mp hadd
    obtain ⟨-, -, -, -, rfl⟩ := addImplementer_eq_ok_iff.mp hadd
    exact KeyedByTypename.insertImplementer keyed base.name concrete
  · rename_i after error heq
    rwa [heq] at htypes

/-- A reachable registry holds built types only, under whichever name they are found. -/
theorem Reachable.built_of_holds (reachable : registry.Reachable) (holds : registry.Holds type) :
    type.Built := by
  cases holds with
  | named found => exact reachable.holdsBuilt.type found
  | root found => exact reachable.holdsBuilt.type (reachable.coherent.typeOfRoot?_iff.mp found).1
  | implementer found => exact reachable.holdsBuilt.implementer found

/-! ## One object written and read again -/

/-- The typename of the type that was chosen chooses it again. -/
theorem Resolves.again (keyed : registry.KeyedByTypename) {discriminator? : Option Json}
    (resolves : registry.Resolves base discriminator? type) :
    registry.Resolves base (some (.string type.typename)) type := by
  cases resolves with
  | implementer other found =>
    rw [keyed _ _ _ found]
    exact .implementer other found
  | _ => exact .own

/-- The type that a discriminator chooses is found in the registry. -/
theorem Resolves.holds (holds : registry.Holds base) {discriminator? : Option Json}
    (resolves : registry.Resolves base discriminator? type) : registry.Holds type := by
  cases resolves with
  | implementer _ found => exact .implementer found
  | _ => exact holds

/-- What is written of an instance is read as this instance where a base type is expected. -/
structure Replays (registry : Registry) (base : ObjectType) (object : Instance) : Prop where
  reread : registry.instantiate base object.toJson = .ok object
  distinct : object.toJson.hasDistinctKeys = true
  clean : object.isClean = true

/-- What is written of a value is read as this value of a field. -/
structure ReplaysField (registry : Registry) (field : Field) (held : FieldValue) : Prop where
  reread : registry.ReadsField field held.toJson? held
  distinct : ∀ written, held.toJson? = some written → written.hasDistinctKeys = true
  clean : held.isClean = true

/-- What a field keeps raw is read from what is written of it. -/
theorem ReplaysField.raw {value : Json} (distinct : value.hasDistinctKeys = true)
    (read : registry.Reads field value (.raw value)) :
    registry.ReplaysField field (.raw value) := by
  refine ⟨.present read, fun written h => ?_, rfl⟩
  rw [FieldValue.toJson?, Option.some.injEq] at h
  rwa [← h]

/-- A field that is absent is written as its default. -/
theorem ReplaysField.absent {owner : String} (fits : field.defaultFits owner = true) :
    registry.ReplaysField field (absentValue field) := by
  rw [Field.defaultFits] at fits
  split at fits
  · rename_i hdefault
    have habsent : absentValue field = .unset := by rw [absentValue, hdefault]
    refine ⟨?_, by simp [habsent, FieldValue.toJson?], by simp [habsent, FieldValue.isClean]⟩
    have hread : registry.ReadsField field none (absentValue field) := .absent
    rwa [habsent] at hread ⊢
  · rename_i hdefault
    rw [absentValue, hdefault]
    exact .raw rfl .null
  -- A default other than `null` is written, so it has to be a value that the field would read.
  · rename_i value hnull hdefault
    rw [absentValue, hdefault]
    simp only [Bool.and_eq_true, Option.isNone_iff_eq_none] at fits
    obtain ⟨⟨unreferenced, hshape⟩, distinct⟩ := fits
    refine .raw distinct (.raw hnull unreferenced ?_)
    rw [← @FieldTraits.checkShape_eq_ok_iff _ owner]
    cases h : field.checkShape owner value with
    | ok => rfl
    | error => simp [h, Except.isOk, Except.toBool] at hshape

/-- A value that was read for a field is written as a value that is read the same, if this is known
of the objects in it. -/
theorem ReplaysField.of_reads {value : Json} (distinct : value.hasDistinctKeys = true)
    (read : registry.Reads field value held)
    (objects : ∀ {type : ObjectType} {part : Json} {object : Instance}, registry.Holds type →
      sizeOf part ≤ sizeOf value → part.hasDistinctKeys = true →
      registry.instantiate type part = .ok object → registry.Replays type object) :
    registry.ReplaysField field held := by
  cases read with
  | null => exact .raw rfl .null
  | raw present unreferenced fits => exact .raw distinct (.raw present unreferenced fits)
  | object target found single read =>
    have replays := objects (.named found) (Nat.le_refl _) distinct read
    refine ⟨.present ?_, fun written h => ?_, ?_⟩
    · exact .object target found single replays.reread
    · rw [FieldValue.toJson?, Option.some.injEq] at h
      exact h ▸ replays.distinct
    · rw [FieldValue.isClean]
      exact replays.clean
  | @list _ type items held target found collection read =>
    -- Every item is `null` or an instance, and is written as an item that is read the same.
    have hitems : ∀ item ∈ held,
        registry.ReadsItem type (item.toJson?.getD .null) item ∧
          (item.toJson?.getD .null).hasDistinctKeys = true ∧ item.isClean = true := by
      intro item hitem
      obtain ⟨part, hpart, hread⟩ := exists_left_of_mem read hitem
      cases hread with
      | null => exact ⟨.null, rfl, rfl⟩
      | object hread =>
        have replays := objects (.named found) (Nat.le_of_lt (sizeOf_lt_of_mem hpart))
          (hasDistinctKeys_list_iff.mp distinct part hpart) hread
        rw [FieldValue.toJson?, Option.getD_some, FieldValue.isClean]
        exact ⟨.object replays.reread, replays.distinct, replays.clean⟩
    refine ⟨?_, fun written h => ?_, ?_⟩
    · rw [FieldValue.toJson?, replyItems_eq_map]
      refine .present (.list target found collection ?_)
      rw [List.forall₂_map_left_iff, List.forall₂_same]
      exact fun item hitem => (hitems item hitem).1
    · rw [FieldValue.toJson?, replyItems_eq_map, Option.some.injEq] at h
      rw [← h, hasDistinctKeys_list_iff, List.forall_mem_map]
      exact fun item hitem => (hitems item hitem).2.1
    · rw [FieldValue.isClean, itemsAreClean_iff]
      exact fun item hitem => (hitems item hitem).2.2

/-- An instance of a built type is read again if its type is chosen again and its fields are read
again. -/
theorem Replays.of_fields (keyed : registry.KeyedByTypename)
    (separate : SeparateFields object.type.fields)
    {discriminator? : Option Json} (resolves : registry.Resolves base discriminator? object.type)
    (fields : List.Forall₂
      (fun field entry => entry.1 = field.label ∧ registry.ReplaysField field entry.2)
      object.type.fields object.values)
    (unchanged : object.changed = []) : registry.Replays base object := by
  have hlabels : Table.keys object.values = object.type.fields.map (·.label) :=
    map_eq_of_forall₂ fields fun _ _ h => h.1
  have hkeys : (Table.keys object.values).Nodup := hlabels ▸ separate.labels
  -- Each field finds under its wire name what was written of its own entry.
  have hwritten : ∀ field ∈ object.type.fields, ∀ entry ∈ object.values, entry.1 = field.label →
      Table.get? field.wireQueryName (replyMembers object.type (replyValues object.values)) =
        entry.2.toJson? := by
    intro field hfield entry hentry hlabel
    rw [get?_replyMembers separate hfield, ← hlabel, get?_replyValues hkeys hentry]
  refine ⟨?_, ?_, ?_⟩
  · rw [Instance.toJson_eq, instantiate_eq_ok_iff]
    refine ⟨_, rfl, ?_, forall₂_imp_of_mem fields fun field hfield entry hentry h => ?_, unchanged⟩
    -- The typename that is written is that of the instance itself, whichever was read.
    · rw [get?_replyMembers_discriminator separate]
      exact resolves.again keyed
    · rw [hwritten field hfield entry hentry h.1]
      exact ⟨h.1, h.2.reread⟩
  · rw [Instance.toJson_eq, hasDistinctKeys_object_iff]
    refine ⟨Table.nodup_keys_ofWrites _, fun member hmember => ?_⟩
    rcases mem_replyMembers hmember with rfl | ⟨entry, hentry, hvalue⟩
    · rfl
    · obtain ⟨field, -, -, replays⟩ := exists_left_of_mem fields hentry
      exact replays.distinct _ hvalue
  · rw [Instance.isClean_iff]
    refine ⟨unchanged, fun entry hentry => ?_⟩
    obtain ⟨field, -, -, replays⟩ := exists_left_of_mem fields hentry
    exact replays.clean

/-- Every instance that is read from a value is read again from what is written of it. -/
theorem Replayable.replays (replayable : registry.Replayable) (holds : registry.Holds base)
    {value : Json} (distinct : value.hasDistinctKeys = true)
    (read : registry.instantiate base value = .ok object) : registry.Replays base object := by
  induction value using size_induction generalizing base object with
  | step value ih =>
    obtain ⟨members, rfl, resolves, fields, unchanged⟩ := instantiate_eq_ok_iff.mp read
    have htype := resolves.holds holds
    refine .of_fields replayable.keyed (replayable.built htype).separate resolves ?_ unchanged
    refine forall₂_imp_of_mem fields fun field hfield entry _ h => ⟨h.1, ?_⟩
    obtain ⟨label, held⟩ := entry
    obtain ⟨-, h⟩ := h
    -- A field that is absent is written as its default, any other one as it was read.
    generalize hget : Table.get? field.wireQueryName members = value? at h
    cases h with
    | absent => exact .absent (replayable.defaults htype field hfield)
    | @present part _ hread =>
      have hpart := (hasDistinctKeys_object_iff.mp distinct).2 _ (Table.mem_of_get?_eq_some hget)
      refine .of_reads hpart hread fun hholds hsize hdistinct hread => ?_
      exact ih _ (Nat.lt_of_le_of_lt hsize (sizeOf_lt_of_get?_eq_some hget)) hholds hdistinct hread

end Registry

/-! ## Whole results -/

/-- Results as a reply holds them: a list of instances under every root. -/
def Results.reply (results : Results) : Json :=
  .object [("data", .object (results.groups.map fun group =>
    (group.1, .list (group.2.map Instance.toJson))))]

/-- Whether all instances of results are clean. -/
def Results.isClean (results : Results) : Bool :=
  results.groups.all fun group => group.2.all Instance.isClean

namespace Registry

variable {registry : Registry}

/-- The groups that are read from the roots of data, and what is known of them. -/
theorem Replayable.roots (replayable : registry.Replayable) {data : List (String × Json)}
    (below : ∀ entry ∈ data, entry.2.hasDistinctKeys = true) {groups : Table (List Instance)}
    (read : registry.decodeRoots data = .ok groups) :
    Table.keys groups = Table.keys data ∧
      ∀ group ∈ groups, ∃ base, registry.typeOfRoot? group.1 = some base ∧
        ∀ object ∈ group.2, registry.Replays base object := by
  rw [decodeRoots_eq_ok_iff] at read
  constructor
  · exact map_eq_of_forall₂ read fun _ _ h => h.1
  · intro group hgroup
    obtain ⟨entry, hentry, hname, base, hroot, hobjects⟩ := exists_left_of_mem read hgroup
    refine ⟨base, hname ▸ hroot, fun object hobject => ?_⟩
    obtain ⟨item, hitem, hread⟩ := exists_left_of_mem hobjects hobject
    have hdistinct := hasDistinctKeys_of_mem_rootItems (below entry hentry) hitem
    exact replayable.replays (.root hroot) hdistinct hread

/-- No written instance is left out under a root. -/
theorem rootItems_list_toJson (objects : List Instance) :
    rootItems (.list (objects.map Instance.toJson)) = objects.map Instance.toJson := by
  rw [rootItems, List.filter_eq_self, List.forall_mem_map]
  intro object _
  rw [Instance.toJson_eq]
  rfl

/-- Results that are written are decoded again, if every instance is read again. -/
theorem decode_reply_of_replays {results : Results} (keys : (Table.keys results.groups).Nodup)
    (replays : ∀ group ∈ results.groups, ∃ base, registry.typeOfRoot? group.1 = some base ∧
      ∀ object ∈ group.2, registry.Replays base object) :
    registry.decode results.reply = .ok results := by
  have hkeys : Table.keys (results.groups.map fun group =>
      (group.1, Json.list (group.2.map Instance.toJson))) = Table.keys results.groups := by
    rw [Table.keys, List.map_map]
    rfl
  -- What is written has distinct keys if the roots and all instances have, so it can be looked up.
  have hdistinct : results.reply.hasDistinctKeys = true := by
    rw [Results.reply, hasDistinctKeys_object_iff]
    refine ⟨by simp [Table.keys], List.forall_mem_singleton.mpr ?_⟩
    rw [hasDistinctKeys_object_iff]
    refine ⟨hkeys ▸ keys, List.forall_mem_map.mpr fun group hgroup => ?_⟩
    obtain ⟨base, -, hobjects⟩ := replays group hgroup
    rw [hasDistinctKeys_list_iff, List.forall_mem_map]
    exact fun object hobject => (hobjects object hobject).distinct
  rw [decode_eq_ok_iff hdistinct]
  refine ⟨_, rfl, .absent, .roots ?_⟩
  rw [decodeRoots_eq_ok_iff, List.forall₂_map_left_iff, List.forall₂_same]
  intro group hgroup
  obtain ⟨base, hroot, hobjects⟩ := replays group hgroup
  refine ⟨rfl, base, hroot, ?_⟩
  rw [rootItems_list_toJson, List.forall₂_map_left_iff, List.forall₂_same]
  exact fun object hobject => (hobjects object hobject).reread

/-- The library is replayable: its defaults are among the values that their fields keep raw. -/
theorem library_replayable : library.Replayable := by
  have hnames : ∀ entry ∈ library.byName, ∀ field ∈ entry.2.fields,
      field.defaultFits entry.2.name = true := by decide
  have himplementers : ∀ table ∈ library.implementers, ∀ entry ∈ table.2, ∀ field ∈ entry.2.fields,
      field.defaultFits entry.2.name = true := by decide
  refine ⟨library_reachable.built_of_holds, ?_, fun holds => ?_⟩
  · refine KeyedByTypename.load (fun _ _ _ h => ?_) libraryDocument
    cases h
  · have hnamed : ∀ {name type}, library.type? name = some type → ∀ field ∈ type.fields,
        field.defaultFits type.name = true :=
      fun found => hnames _ (Table.mem_of_get?_eq_some found)
    cases holds with
    | named found => exact hnamed found
    -- A root belongs to a registered type, which is found by its name, too.
    | root found => exact hnamed (library_reachable.coherent.typeOfRoot?_iff.mp found).1
    | @implementer base typename found =>
      rw [implementer?, implementersOf] at found
      cases htable : library.implementers.get? base with
      | none => rw [htable] at found; cases found
      | some table =>
        rw [htable] at found
        exact himplementers _ (Table.mem_of_get?_eq_some htable) _ (Table.mem_of_get?_eq_some found)

/-- Decoding what is written of decoded results gives these results again, in which no field is
changed. -/
theorem decode_reply (replayable : registry.Replayable) {payload : Json}
    (distinct : payload.hasDistinctKeys = true) {results : Results}
    (decoded : registry.decode payload = .ok results) :
    results.isClean = true ∧
      ∃ again, registry.decode results.reply = .ok again ∧ again = results ∧
        again.reply = results.reply := by
  obtain ⟨members, rfl, -, read⟩ := (decode_eq_ok_iff distinct).mp decoded
  obtain ⟨groups⟩ := results
  have hgroups : (Table.keys groups).Nodup ∧
      ∀ group ∈ groups, ∃ base, registry.typeOfRoot? group.1 = some base ∧
        ∀ object ∈ group.2, registry.Replays base object := by
    -- Only data that is an object has groups.
    generalize hdata : Table.get? "data" members = data? at read
    cases read with
    | roots read =>
      have hpart := (hasDistinctKeys_object_iff.mp distinct).2 _ (Table.mem_of_get?_eq_some hdata)
      obtain ⟨hkeys, hbelow⟩ := hasDistinctKeys_object_iff.mp hpart
      obtain ⟨heq, replays⟩ := replayable.roots hbelow read
      exact ⟨heq ▸ hkeys, replays⟩
    | _ => exact ⟨List.nodup_nil, by simp⟩
  refine ⟨?_, _, decode_reply_of_replays hgroups.1 hgroups.2, rfl, rfl⟩
  simp only [Results.isClean, List.all_eq_true]
  intro group hgroup object hobject
  obtain ⟨base, -, hobjects⟩ := hgroups.2 group hgroup
  exact (hobjects object hobject).clean

/-- A reply with one shelf that stands alone, an atlas after a gap in its list, and no floor. -/
def loneShelf : Json :=
  .object [("data", .object [("shelves", .object [
    ("label", .null),
    ("books", .list [.null, .object [("mapScale", .ofInt 5), ("__typename", .string "Atlas")]])])])]

/-- The lone shelf is written with its defaults, and is decoded to itself. -/
theorem loneShelf_decode_reply :
    ∃ results, library.decode loneShelf = .ok results ∧ results.isClean = true ∧
      library.decode results.reply = .ok results := by
  refine ⟨_, rfl, ?_⟩
  have hdecoded : library.decode loneShelf = .ok _ := rfl
  obtain ⟨clean, again, h, rfl, -⟩ := decode_reply library_replayable (by decide) hdecoded
  exact ⟨clean, h⟩

end Registry

end TypedQuery
