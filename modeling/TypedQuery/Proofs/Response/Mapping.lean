import TypedQuery.Proofs.Response.Conformance
import TypedQuery.Proofs.Response.Writing

/-!
# What is left of a mapping

A field that is declared as a map takes an object, and the entries of this object are data: their
keys are no names that a type declares. Such a field keeps its value raw, with every entry, unless
the map is one of objects. Then the whole mapping is read as a single object of the inner type, and
an entry is kept only if this type happens to know its key (`mapping_keeps_iff`).

Reading and writing an object answers exactly the keys that its type knows
(`mem_keys_replyMembers_iff`). So a map of objects loses what a map of anything else keeps.
-/

namespace TypedQuery

open Checked Json

/-- Whether a key is the discriminator or the wire name of a field. -/
def ObjectType.Knows (type : ObjectType) (key : String) : Prop :=
  key = discriminator ∨ ∃ field ∈ type.fields, field.wireQueryName = key

/-! ## Fields declared as maps -/

namespace FieldDeclaration

variable {declared : FieldDeclaration} {inner : DeclaredType}

/-- A map of scalars is a mapping, and any other map has the target of what it maps to. -/
theorem target_bound_of_map (map : declared.type = .map inner) :
    declared.bound.target = if inner.terminal = .scalar then .mapping else inner.terminal := by
  rw [bound, map]
  rfl

/-- A map refers to a type exactly if it is one of objects of the type. -/
theorem target_bound_eq_object_iff (map : declared.type = .map inner) {name : String} :
    declared.bound.target = .object name ↔ inner = .object name := by
  rw [target_bound_of_map map]
  cases inner <;> simp [DeclaredType.terminal]

/-- A map refers to no type just if it is not a map of objects. -/
theorem referencedType?_bound_eq_none_iff (map : declared.type = .map inner) :
    declared.bound.referencedType? = none ↔ ∀ name, inner ≠ .object name := by
  have hreferenced : declared.bound.referencedType? = none ↔
      ∀ name, declared.bound.target ≠ .object name := by
    unfold FieldTraits.referencedType?
    cases declared.bound.target <;> simp
  rw [hreferenced]
  exact forall_congr' fun name => not_congr (target_bound_eq_object_iff map)

end FieldDeclaration

/-! ## The keys of a written object -/

namespace Registry

variable {registry : Registry} {base type : ObjectType} {field : Field} {held : FieldValue}
  {members entries : List (String × Json)} {object : Instance} {key : String}

/-- What a reply holds is written again as something. -/
theorem Reads.exists_toJson? {value : Json} (read : registry.Reads field value held) :
    ∃ written, held.toJson? = some written := by
  cases read <;> exact ⟨_, by rw [FieldValue.toJson?]⟩

/-- What is read from an object has one value for each label. -/
theorem nodup_keys_of_instantiate (separate : SeparateFields object.type.fields)
    (read : registry.instantiate base (.object members) = .ok object) :
    (Table.keys object.values).Nodup := by
  rw [keys_values_of_instantiate read]
  exact separate.labels

/-- An instance that was read holds what is read for each field of its type. -/
theorem exists_entry_of_instantiate
    (read : registry.instantiate base (.object members) = .ok object)
    (hfield : field ∈ object.type.fields) :
    ∃ held, (field.label, held) ∈ object.values ∧
      registry.ReadsField field (Table.get? field.wireQueryName members) held := by
  obtain ⟨_, hmembers, -, fields, -⟩ := instantiate_eq_ok_iff.mp read
  obtain rfl := Json.object.inj hmembers
  obtain ⟨⟨_, held⟩, hentry, rfl, readsField⟩ := exists_left_of_mem fields.flip hfield
  exact ⟨held, hentry, readsField⟩

/-- Of the keys of an object, those that its type knows are written again. -/
theorem mem_keys_replyMembers_iff (separate : SeparateFields object.type.fields)
    (read : registry.instantiate base (.object members) = .ok object)
    (hkey : key ∈ Table.keys members) :
    key ∈ Table.keys (replyMembers object.type (replyValues object.values)) ↔
      object.type.Knows key := by
  refine ⟨mem_keys_replyMembers, ?_⟩
  rintro (rfl | ⟨field, hfield, rfl⟩)
  · exact Table.mem_keys_iff.mpr ⟨_, get?_replyMembers_discriminator separate⟩
  · obtain ⟨value, hvalue⟩ := Table.mem_keys_iff.mp hkey
    have hlabels := nodup_keys_of_instantiate separate read
    obtain ⟨held, hentry, readsField⟩ := exists_entry_of_instantiate read hfield
    rw [hvalue] at readsField
    obtain _ | ⟨reads⟩ := readsField
    obtain ⟨written, hwritten⟩ := reads.exists_toJson?
    refine Table.mem_keys_iff.mpr ⟨written, ?_⟩
    rw [get?_replyMembers separate hfield, get?_replyValues hlabels hentry, hwritten]

/-! ## Mappings -/

/-- Whether an entry survives when a mapping is read as one object that stands where a type is
expected. -/
def KnowsEntry (registry : Registry) (name : String) (entries : List (String × Json))
    (key : String) : Prop :=
  ∃ target type, registry.type? name = some target ∧
    registry.Resolves target (Table.get? discriminator entries) type ∧ type.Knows key

/-- An object that is read for a field which refers to no type is kept as it is. -/
theorem Reads.toJson?_of_unreferenced (unreferenced : field.referencedType? = none) {value : Json}
    (read : registry.Reads field value held) : held.toJson? = some value := by
  cases read with
  | object target | list target => simp [FieldTraits.referencedType?, target] at unreferenced
  | _ => rw [FieldValue.toJson?]

/-- An object that is read for a field which refers to a type keeps the entries that the type
knows. -/
theorem Reads.exists_object_of_target (holds : registry.HoldsBuilt) {name : String}
    (target : field.target = .object name) (read : registry.Reads field (.object entries) held) :
    ∃ written, held.toJson? = some (.object written) ∧
      ∀ key ∈ Table.keys entries,
        key ∈ Table.keys written ↔ registry.KnowsEntry name entries key := by
  cases read with
  | raw _ unreferenced => simp [FieldTraits.referencedType?, target] at unreferenced
  | @object name' base _ object target' found _ read =>
    obtain rfl := Target.object.inj (target.symm.trans target')
    obtain ⟨_, hentries, resolves, -⟩ := instantiate_eq_ok_iff.mp read
    cases hentries
    have separate := (resolves.built holds (holds.type found)).separate
    refine ⟨_, by rw [FieldValue.toJson?, Instance.toJson_eq], fun key hkey => ?_⟩
    rw [mem_keys_replyMembers_iff separate read hkey]
    constructor
    · intro knows
      exact ⟨base, object.type, found, resolves, knows⟩
    -- The mapping resolves to one type only.
    · rintro ⟨other, type, found', resolves', knows⟩
      obtain rfl := Option.some.inj (found.symm.trans found')
      rwa [resolves.unique resolves']

/-- A map keeps its value as it is, unless it is a map of objects: then an entry is kept exactly if
the type that the mapping is taken for knows its key. -/
theorem mapping_keeps_iff (reachable : registry.Reachable)
    (read : registry.instantiate base (.object members) = .ok object)
    {declaration : TypeDeclaration} (declares : declaration.build = .ok object.type)
    {declared : FieldDeclaration} (hdeclared : declared ∈ declaration.fields)
    {inner : DeclaredType} (map : declared.type = .map inner)
    (hentries : Table.get? declared.bound.wireQueryName members = some (.object entries)) :
    ∃ held written, object.get? declared.name = some held ∧
      held.toJson? = some (.object written) ∧
      ((∀ name, inner ≠ .object name) → written = entries) ∧
      ∀ key ∈ Table.keys entries, key ∈ Table.keys written ↔
        ∀ name, inner = .object name → registry.KnowsEntry name entries key := by
  obtain ⟨-, separate, htype⟩ := TypeDeclaration.build_eq_ok_iff.mp declares
  have hfields : object.type.fields = declaration.fields.map FieldDeclaration.bound := by
    rw [htype]
    rfl
  rw [← hfields] at separate
  have hfield : declared.bound ∈ object.type.fields :=
    hfields ▸ List.mem_map_of_mem hdeclared
  obtain ⟨held, hentry, readsField⟩ := exists_entry_of_instantiate read hfield
  rw [hentries] at readsField
  rw [FieldDeclaration.label_bound] at hentry
  -- The field of the declaration is a field of the type, and its labels are distinct, so the
  -- instance holds what was read for it.
  have hheld : object.get? declared.name = some held :=
    (Table.get?_eq_some_iff (nodup_keys_of_instantiate separate read)).mpr hentry
  obtain _ | ⟨reads⟩ := readsField
  by_cases hobject : ∃ name, inner = .object name
  · obtain ⟨name, rfl⟩ := hobject
    have target := (FieldDeclaration.target_bound_eq_object_iff map).mpr rfl
    obtain ⟨written, hwritten, hkeys⟩ :=
      reads.exists_object_of_target reachable.holdsBuilt target
    refine ⟨held, written, hheld, hwritten, fun h => absurd rfl (h name), fun key hkey => ?_⟩
    rw [hkeys key hkey]
    exact ⟨fun knows _ h => DeclaredType.object.inj h ▸ knows, fun knows => knows name rfl⟩
  · rw [not_exists] at hobject
    have unreferenced := (FieldDeclaration.referencedType?_bound_eq_none_iff map).mpr hobject
    refine ⟨held, entries, hheld, reads.toJson?_of_unreferenced unreferenced, fun _ => rfl, ?_⟩
    exact fun key hkey => iff_of_true hkey fun name h => absurd h (hobject name)

/-- An author is known by name. -/
def namedAuthor : TypeEntry where
  name := "author"
  typename := some "Author"
  fields := [{ name := "name" }]

/-- A book with two mappings, one of them of objects. -/
def creditedBook : TypeEntry where
  name := "book"
  typename := some "Book"
  fields := [
    { name := "notes", type := .map .scalar },
    { name := "credits", type := .map (.object "author") }]

/-- The registry of books with credits. -/
def archive : Registry :=
  Registry.empty.perform (.load { types := [namedAuthor, creditedBook] })

theorem archive_reachable : archive.Reachable :=
  @Reachable.perform _ .empty (.load _) trivial

/-- Authors by the part that each of them has in a book. -/
def credits : List (String × Json) :=
  [("editor", .object [("name", .string "Ada")]), ("reader", .object [("name", .string "Grace")])]

/-- A reply with a book. -/
def creditedReply : Json :=
  .object [("notes", .object [("shelf", .ofInt 3)]), ("credits", .object credits)]

/-- What is read for the book: its credits are one author without a name. -/
def readBook : Instance where
  type := creditedBook.declaration.built
  values := [
    ("notes", .raw (.object [("shelf", .ofInt 3)])),
    ("credits", .object ⟨namedAuthor.declaration.built, [("name", .unset)], []⟩)]
  changed := []

/-- The book that is read has credits, of which those are kept whose keys an author knows. -/
theorem readBook_keeps :
    ∃ held written, readBook.get? "credits" = some held ∧
      held.toJson? = some (.object written) ∧
      ((∀ name, DeclaredType.object "author" ≠ .object name) → written = credits) ∧
      ∀ key ∈ Table.keys credits, key ∈ Table.keys written ↔
        ∀ name, DeclaredType.object "author" = .object name →
          archive.KnowsEntry name credits key := by
  have read : archive.instantiate creditedBook.declaration.built creditedReply = .ok readBook := rfl
  have declares : creditedBook.declaration.build = .ok readBook.type := rfl
  have hcredits : FieldDeclaration.mk "credits" (.map (.object "author")) {} ∈
      creditedBook.declaration.fields := .tail _ (.head _)
  exact mapping_keeps_iff archive_reachable read declares hcredits rfl rfl

/-- The credits of the book are written without the entry of the editor. -/
theorem readBook_loses_editor :
    archive.Reachable ∧ archive.type? "book" = some creditedBook.declaration.built ∧
      archive.instantiate creditedBook.declaration.built creditedReply = .ok readBook ∧
      "editor" ∈ Table.keys credits ∧
      ∃ held written, readBook.get? "credits" = some held ∧
        held.toJson? = some (.object written) ∧ "editor" ∉ Table.keys written :=
  ⟨archive_reachable, rfl, rfl, by decide, _, _, rfl, rfl, by decide⟩

end Registry

end TypedQuery
