import TypedQuery.Proofs.Schema.Growth
import TypedQuery.Proofs.Schema.Subtypes

/-!
# Registries that answer alike

Reading a reply and resolving a document ask a registry by lookups alone. So registries whose
lookups answer alike (`Agrees`) give the same results and the same errors, although they may list
their types and implementers in different orders (`Agrees.decode_eq`, `Agrees.resolve_eq`).

What the lookups of a loaded document answer is said by its types without regard to their order: the
built types of its entries, and its subtype relation. Hence every order of the types that loads
gives the document the same meaning.
-/

namespace TypedQuery

open Checked

namespace Registry

variable {registry other : Registry}

/-- Whether every lookup answers the same in two registries. -/
structure Agrees (registry other : Registry) : Prop where
  type?_eq : ∀ name, registry.type? name = other.type? name
  typename?_eq : ∀ typename, registry.typeOfTypename? typename = other.typeOfTypename? typename
  root?_eq : ∀ root, registry.typeOfRoot? root = other.typeOfRoot? root
  implementer?_eq : ∀ base typename,
    registry.implementer? base typename = other.implementer? base typename

/-! ## Replies -/

/-- An object chooses the same type in both registries. -/
theorem Agrees.variant_eq (agrees : registry.Agrees other) (base : ObjectType)
    (members : List (String × Json)) :
    registry.variant base members = other.variant base members := by
  simp only [variant, agrees.implementer?_eq]

/-- A field refers to the same type in both registries. -/
theorem Agrees.referenced_eq (agrees : registry.Agrees other) (owner : ObjectType) (field : Field)
    (value : Json) :
    registry.referenced owner field value = other.referenced owner field value := by
  simp only [referenced, agrees.type?_eq]

/-- An object is read in the same way if its fields are. -/
theorem Agrees.assemble_eq (agrees : registry.Agrees other) (base : ObjectType)
    (members : List (String × Json)) {read otherRead : ObjectType → Field → Except _ FieldValue}
    (fields : ∀ owner field, read owner field = otherRead owner field) :
    registry.assemble base members read = other.assemble base members otherRead := by
  simp only [assemble, agrees.variant_eq, fields]

mutual

/-- A field of an object is read in the same way. -/
theorem Agrees.readMember_eq (agrees : registry.Agrees other) (owner : ObjectType)
    (field : Field) : ∀ members : List (String × Json),
      registry.readMember owner field members = other.readMember owner field members
  | [] => by rw [readMember, readMember]
  | (key, value) :: rest => by
    rw [readMember, readMember, Agrees.readValue_eq agrees owner field value,
      Agrees.readMember_eq agrees owner field rest]

/-- A value is read for a field in the same way. -/
theorem Agrees.readValue_eq (agrees : registry.Agrees other) (owner : ObjectType) (field : Field) :
    ∀ value : Json, registry.readValue owner field value = other.readValue owner field value
  | .null => by rw [readValue, readValue]
  | .list items => by
    rw [readValue, readValue, agrees.referenced_eq]
    simp only [fun type => Agrees.readItems_eq agrees owner field type items]
  | .object members => by
    rw [readValue, readValue, agrees.referenced_eq]
    simp only [fun type => agrees.assemble_eq type members fun owner field =>
      Agrees.readMember_eq agrees owner field members]
  | .bool _ | .number _ | .string _ => by
    simp only [readValue, agrees.referenced_eq]

/-- Items of a collection are read in the same way. -/
theorem Agrees.readItems_eq (agrees : registry.Agrees other) (owner : ObjectType) (field : Field)
    (type : ObjectType) : ∀ items : List Json,
      registry.readItems owner field type items = other.readItems owner field type items
  | [] => by rw [readItems, readItems]
  | item :: rest => by
    rw [readItems, readItems, Agrees.readItem_eq agrees owner field type item,
      Agrees.readItems_eq agrees owner field type rest]

/-- An item of a collection is read in the same way. -/
theorem Agrees.readItem_eq (agrees : registry.Agrees other) (owner : ObjectType) (field : Field)
    (type : ObjectType) : ∀ item : Json,
      registry.readItem owner field type item = other.readItem owner field type item
  | .object members => by
    rw [readItem, readItem, agrees.assemble_eq type members fun owner field =>
      Agrees.readMember_eq agrees owner field members]
  | .null | .list _ | .bool _ | .number _ | .string _ => by simp only [readItem]

end

/-- A value is read as an instance in the same way. -/
theorem Agrees.instantiate_eq (agrees : registry.Agrees other) (base : ObjectType) (value : Json) :
    registry.instantiate base value = other.instantiate base value := by
  cases value with
  | object members =>
    exact agrees.assemble_eq base members fun owner field =>
      agrees.readMember_eq owner field members
  | _ => rfl

/-- The roots of the data are decoded in the same way. -/
theorem Agrees.decodeRoots_eq (agrees : registry.Agrees other) (data : List (String × Json)) :
    registry.decodeRoots data = other.decodeRoots data := by
  have hinstantiate : registry.instantiate = other.instantiate := by
    funext base value
    exact agrees.instantiate_eq base value
  simp only [decodeRoots, agrees.root?_eq, instantiateRoot_eq_mapM, hinstantiate]

/-- Every payload is decoded to the same results or refused with the same error. -/
theorem Agrees.decode_eq (agrees : registry.Agrees other) (payload : Json) :
    registry.decode payload = other.decode payload := by
  simp only [decode, agrees.decodeRoots_eq]

/-! ## Selection documents -/

theorem Agrees.resolveType_eq (agrees : registry.Agrees other) (name : String) :
    registry.resolveType name = other.resolveType name := by
  simp only [resolveType, agrees.type?_eq]

/-- A head and the scope below it are resolved in the same way. -/
theorem Agrees.resolveHead_eq (agrees : registry.Agrees other) (scope : Option ObjectType)
    (typeName field on : Option String) (arguments : List (String × String)) :
    registry.resolveHead scope typeName field on arguments =
      other.resolveHead scope typeName field on arguments := by
  have hlookup : registry.type? = other.type? := funext agrees.type?_eq
  simp only [resolveHead, agrees.resolveType_eq, hlookup]

mutual

/-- A node is resolved in the same way. -/
theorem Agrees.resolveNode_eq (agrees : registry.Agrees other) (scope : Option ObjectType) :
    ∀ node : OutlineNode, registry.resolveNode scope node = other.resolveNode scope node
  | ⟨typeName, field, on, arguments, items⟩ => by
    rw [resolveNode, resolveNode, agrees.resolveHead_eq]
    simp only [fun inner => Agrees.resolveItems_eq agrees inner items]

/-- A list of items is resolved in the same way. -/
theorem Agrees.resolveItems_eq (agrees : registry.Agrees other) (scope : Option ObjectType) :
    ∀ items : List OutlineItem, registry.resolveItems scope items = other.resolveItems scope items
  | [] => by rw [resolveItems, resolveItems]
  | item :: rest => by
    rw [resolveItems, resolveItems, Agrees.resolveItem_eq agrees scope item,
      Agrees.resolveItems_eq agrees scope rest]

/-- An item is resolved in the same way. -/
theorem Agrees.resolveItem_eq (agrees : registry.Agrees other) (scope : Option ObjectType) :
    ∀ item : OutlineItem, registry.resolveItem scope item = other.resolveItem scope item
  | .name _ | .fragmentRef _ => by rw [resolveItem, resolveItem]
  | .node node => by
    rw [resolveItem, resolveItem, Agrees.resolveNode_eq agrees scope node]

end

/-- Every selection document is resolved to the same tree or refused with the same error. -/
theorem Agrees.resolve_eq (agrees : registry.Agrees other) (document : SelectionDocument) :
    registry.resolve document = other.resolve document := by
  have hnode : registry.resolveNode none = other.resolveNode none := funext fun node =>
    agrees.resolveNode_eq none node
  have hfragment : registry.resolveFragment = other.resolveFragment := by
    funext fragment
    simp only [resolveFragment, agrees.resolveType_eq, agrees.resolveItems_eq]
  simp only [resolve, hnode, hfragment]

end Registry

/-! ## Types in another order -/

namespace SchemaDocument

open Registry (library shelfOutline libraryDocument)

variable {document first second : SchemaDocument} {registry other : Registry}

/-- The registered types of a loaded document are the built types of its entries. -/
theorem type?_eq_some_iff_of_load (h : document.load = .ok registry) {name : String}
    {type : ObjectType} :
    registry.type? name = some type ↔
      ∃ entry ∈ document.types, entry.name = name ∧ entry.declaration.built = type := by
  obtain ⟨declared, represents, extended, -⟩ := exists_declared_of_load h
  rw [extended.type?_eq, represents.type?_iff]

/-- What a document says of its types does not depend on their order. -/
theorem agrees_of_perm (perm : first.types.Perm second.types) (loaded : first.load = .ok registry)
    (reordered : second.load = .ok other) : registry.Agrees other := by
  have coherent := (reachable_of_load loaded).coherent
  have otherCoherent := (reachable_of_load reordered).coherent
  -- What is said of a loaded document mentions its types by membership alone, and a reordering
  -- keeps that.
  have hextends : first.Extends = second.Extends := by
    funext child parent
    simp only [Extends, perm.mem_iff]
  have hlists : ∀ base name, first.Lists base name ↔ second.Lists base name := by
    intro base name
    simp only [Lists, perm.mem_iff]
  have htype : ∀ name type, registry.type? name = some type ↔ other.type? name = some type := by
    intro name type
    simp only [type?_eq_some_iff_of_load loaded, type?_eq_some_iff_of_load reordered, perm.mem_iff]
  have hregistered : ∀ type, registry.Registered type ↔ other.Registered type :=
    fun type => htype type.name type
  have htypename : ∀ typename type, registry.typeOfTypename? typename = some type ↔
      other.typeOfTypename? typename = some type := by
    intro typename type
    rw [coherent.typename_iff, otherCoherent.typename_iff, hregistered]
  -- The four lookups: names by the entries, typenames and roots by coherence, and implementers by
  -- the subtype relation.
  refine ⟨fun name => ?_, fun typename => ?_, fun root => ?_, fun base typename => ?_⟩
  · exact Option.ext (htype name)
  · exact Option.ext (htypename typename)
  · refine Option.ext fun type => ?_
    rw [coherent.typeOfRoot?_iff, otherCoherent.typeOfRoot?_iff, hregistered]
  · refine Option.ext fun type => ?_
    rw [implementer?_eq_some_iff_of_load loaded, implementer?_eq_some_iff_of_load reordered,
      htypename, hextends, hlists]

/-- The types of a document may be declared in any order in which they load: every lookup answers
the same, every payload gives the same results or the same error, and every selection document the
same tree or the same error. -/
theorem meaning_eq_of_perm (perm : first.types.Perm second.types)
    (loaded : first.load = .ok registry) (reordered : second.load = .ok other) :
    registry.Agrees other ∧
    (∀ payload, registry.decode payload = other.decode payload) ∧
    ∀ document, registry.resolve document = other.resolve document :=
  have agrees := agrees_of_perm perm loaded reordered
  ⟨agrees, agrees.decode_eq, agrees.resolve_eq⟩

/-- The library, in which the shelf comes before the books on it. -/
def rearrangedLibrary : SchemaDocument where
  types := libraryDocument.types.drop 2 ++ libraryDocument.types.take 2

/-- The registry of the rearranged library. -/
def rearrangedRegistry : Registry := Registry.empty.perform (.load rearrangedLibrary)

/-- A shelf with an atlas that stands where a book is expected. -/
def atlasOnShelf : Json :=
  .object [("data", .object [("shelves", .object [
    ("firstBook", .object [("__typename", .string "Atlas"), ("mapScale", .ofInt 5)])])])]

/-- The shelf is listed first, but it is read and resolved as before. -/
theorem rearrangedLibrary_meaning :
    libraryDocument.load = .ok library ∧ rearrangedLibrary.load = .ok rearrangedRegistry ∧
    library.types.map (·.name) = ["book", "atlas", "shelf"] ∧
    rearrangedRegistry.types.map (·.name) = ["shelf", "book", "atlas"] ∧
    library.Agrees rearrangedRegistry ∧
    (∃ results, library.decode atlasOnShelf = .ok results ∧
      rearrangedRegistry.decode atlasOnShelf = .ok results) ∧
    ∃ tree, library.resolve shelfOutline = .ok tree ∧
      rearrangedRegistry.resolve shelfOutline = .ok tree := by
  have perm : libraryDocument.types.Perm rearrangedLibrary.types :=
    @List.perm_append_comm _ (libraryDocument.types.take 2) (libraryDocument.types.drop 2)
  have loaded : libraryDocument.load = .ok library := rfl
  have reordered : rearrangedLibrary.load = .ok rearrangedRegistry := rfl
  obtain ⟨agrees, decoded, resolved⟩ := meaning_eq_of_perm perm loaded reordered
  exact ⟨loaded, reordered, rfl, rfl, agrees, ⟨_, rfl, (decoded atlasOnShelf).symm⟩,
    _, rfl, (resolved shelfOutline).symm⟩

end SchemaDocument

end TypedQuery
