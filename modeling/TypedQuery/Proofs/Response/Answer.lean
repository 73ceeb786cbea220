import TypedQuery.Proofs.Query.Wire
import TypedQuery.Proofs.Response.Decoding
import TypedQuery.Proofs.Schema.Reachable

/-!
# Answers to the names that a document emits

A selection is written by one recursion and its reply is read by another; they meet in the names on
the wire. `Answers` is what a server that knows the types returns for emitted items: the names that
were asked for, and no others, with values of the right shape. `decode_answer` says that every
answer to what a selection of a registered type emits is decoded, to an instance that holds what was
answered (`Mirrors`).

The answer is followed down by induction on its size. At each level the emitted names lead from the
fields that were selected to the fields that are read, since no two fields of a type share a wire
name.
-/

namespace TypedQuery

open Checked Json Query

/-! ## Selections of fields -/

/-- Whether a head names a type, bare or with arguments. -/
inductive Head.NamesType (type : ObjectType) : Head → Prop
  | bare : NamesType type (.type type)
  | call (arguments : List (String × String)) :
      NamesType type (.operation (.argument (.type type) arguments))

/-- Whether a head names a field, bare or with arguments. -/
inductive Head.NamesField (field : Field) : Head → Prop
  | bare : NamesField field (.field field)
  | call (arguments : List (String × String)) :
      NamesField field (.operation (.argument (.field field) arguments))

/-- The answer to a root head stands under the root name of its type. -/
theorem Head.NamesType.key?_eq {type : ObjectType} {head : Head} (names : head.NamesType type)
    {operation : OperationType} {wire : WireHead} (h : wireRootHead operation head = .ok wire) :
    ∃ root, operation.root? type = some root ∧ wire.key? = some root := by
  cases names with
  | bare =>
    rw [wireRootHead, map_eq_ok] at h
    obtain ⟨root, hroot, rfl⟩ := h
    exact ⟨root, rootName_eq_ok_iff.mp hroot, rfl⟩
  | call arguments =>
    rw [wireRootHead, map_eq_ok] at h
    obtain ⟨root, hroot, rfl⟩ := h
    exact ⟨root, rootName_eq_ok_iff.mp hroot, rfl⟩

/-- The answer to a nested head stands under the wire name of its field. -/
theorem Head.NamesField.key?_eq {field : Field} {head : Head} (names : head.NamesField field)
    {wire : WireHead} (h : wireNestedHead head = .ok wire) :
    wire.key? = some field.wireQueryName := by
  cases names with
  | bare =>
    rw [wireNestedHead, map_eq_ok] at h
    obtain ⟨key, hkey, rfl⟩ := h
    rw [WireHead.key?, (objectFieldName_eq_ok_iff.mp hkey).2]
  | call arguments =>
    rw [wireNestedHead, Except.ok.injEq] at h
    rw [← h, WireHead.key?]

namespace Registry

variable {registry : Registry} {owner type : ObjectType} {field : Field} {value : Json}

/-- The items that select fields of a type: fields that refer to no type, and selections of fields
that refer to a registered type whose items select fields of that type. -/
inductive Selects (registry : Registry) : ObjectType → Item → Prop
  | leaf {owner : ObjectType} {field : Field} (mem : field ∈ owner.fields)
      (unreferenced : field.referencedType? = none) : Selects registry owner (.field field)
  | nested {owner type : ObjectType} {field : Field} {head : Head} {items : List Item}
      {name : String} (mem : field ∈ owner.fields) (names : head.NamesField field)
      (target : field.target = .object name) (found : registry.type? name = some type)
      (below : ∀ item ∈ items, Selects registry type item) :
      Selects registry owner (.selection ⟨head, items⟩)

/-! ## Answers -/

mutual

/-- What is answered when items are asked of an object of a type: the asked names and the
discriminator, which names the type itself. -/
inductive Answers (registry : Registry) : ObjectType → List WireItem → Json → Prop
  | object {owner : ObjectType} {wires : List WireItem} {members : List (String × Json)}
      (keys : ∀ key, key ∈ Table.keys members ↔
        key = discriminator ∨ ∃ wire ∈ wires, wire.key? = some key)
      (typename : Table.get? discriminator members = some (.string owner.typename))
      (values : ∀ wire ∈ wires, ∀ field ∈ owner.fields, wire.key? = some field.wireQueryName →
        ∀ value, Table.get? field.wireQueryName members = some value →
          AnswersField registry owner field wire value) :
      Answers registry owner wires (.object members)

/-- What is answered when an item asks for a field: a name alone is answered by `null` or a value of
the shape of the field, a selection by an object, or by a list of objects for a collection. -/
inductive AnswersField (registry : Registry) : ObjectType → Field → WireItem → Json → Prop
  | leaf {owner : ObjectType} {field : Field} {key : String} {value : Json}
      (fits : value = .null ∨ field.checkShape owner.name value = .ok ()) :
      AnswersField registry owner field (.name key) value
  | one {owner type : ObjectType} {field : Field} {selection : WireSelection} {name : String}
      {value : Json} (target : field.target = .object name)
      (found : registry.type? name = some type) (single : field.isCollection = false)
      (answers : Answers registry type selection.items value) :
      AnswersField registry owner field (.selection selection) value
  | many {owner type : ObjectType} {field : Field} {selection : WireSelection} {name : String}
      {values : List Json} (target : field.target = .object name)
      (found : registry.type? name = some type) (collection : field.isCollection = true)
      (answers : ∀ value ∈ values, Answers registry type selection.items value) :
      AnswersField registry owner field (.selection selection) (.list values)

end

mutual

/-- Whether an instance holds what an object says, and defaults for what it does not say. -/
inductive Mirrors : Json → Instance → Prop
  | object {members : List (String × Json)} {object : Instance}
      (typename : Table.get? discriminator members = some (.string object.type.typename))
      (labels : Table.keys object.values = object.type.fields.map (·.label))
      (fields : ∀ field ∈ object.type.fields, ∀ held, object.get? field.label = some held →
        MirrorsField field (Table.get? field.wireQueryName members) held)
      (unchanged : object.changed = []) : Mirrors (.object members) object

/-- Whether the value of a field is what an object says of it, if it says anything. -/
inductive MirrorsField : Field → Option Json → FieldValue → Prop
  | absent {field : Field} : MirrorsField field none (absentValue field)
  | raw {field : Field} {value : Json} (unreferenced : field.referencedType? = none) :
      MirrorsField field (some value) (.raw value)
  | object {field : Field} {value : Json} {object : Instance} (mirrors : Mirrors value object) :
      MirrorsField field (some value) (.object object)
  | list {field : Field} {values : List Json} {objects : List Instance}
      (mirrors : List.Forall₂ Mirrors values objects) :
      MirrorsField field (some (.list values)) (.list (objects.map .object))

end

/-! ## Reading answers -/

section

variable {items : List Item} {wires : List WireItem} {members : List (String × Json)}

/-- What an answer says of a field answers an item that selects this field. -/
theorem Answers.exists_item (separate : SeparateFields owner.fields)
    (erased : List.Forall₂ (fun item wire => wireItem item = .ok wire) items wires)
    (answers : registry.Answers owner wires (.object members)) (hfield : field ∈ owner.fields)
    (hvalue : Table.get? field.wireQueryName members = some value) :
    ∃ item ∈ items, ∃ wire, wireItem item = .ok wire ∧ wire.key? = some field.wireQueryName ∧
      registry.AnswersField owner field wire value := by
  obtain ⟨keys, -, values⟩ := answers
  have hkey := (keys field.wireQueryName).mp (Table.mem_keys_iff.mpr ⟨value, hvalue⟩)
  obtain ⟨wire, hwire, hkey⟩ := hkey.resolve_left (separate.wireName_ne field hfield)
  obtain ⟨item, hitem, herased⟩ := exists_left_of_mem erased hwire
  exact ⟨item, hitem, wire, herased, hkey, values wire hwire field hfield hkey value hvalue⟩

/-- The value that answers a field is read as what mirrors it, if this is known of the objects in
it. -/
theorem Answers.exists_reads (separate : SeparateFields owner.fields)
    (selects : ∀ item ∈ items, registry.Selects owner item)
    (erased : List.Forall₂ (fun item wire => wireItem item = .ok wire) items wires)
    (answers : registry.Answers owner wires (.object members)) (hfield : field ∈ owner.fields)
    (hvalue : Table.get? field.wireQueryName members = some value)
    (objects : ∀ {name : String} {type : ObjectType} {items : List Item} {wires : List WireItem}
      {part : Json}, registry.type? name = some type → sizeOf part ≤ sizeOf value →
      (∀ item ∈ items, registry.Selects type item) →
      List.Forall₂ (fun item wire => wireItem item = .ok wire) items wires →
      registry.Answers type wires part →
      ∃ object, registry.instantiate type part = .ok object ∧ Mirrors part object) :
    ∃ held, registry.Reads field value held ∧ MirrorsField field (some value) held := by
  obtain ⟨item, hitem, wire, hwire, hkey, answersField⟩ :=
    answers.exists_item separate erased hfield hvalue
  -- The item selects this very field, since no other field has its wire name.
  cases selects item hitem with
  | @leaf _ selected mem unreferenced =>
    rw [wireItem, Except.ok.injEq] at hwire
    subst hwire
    rw [WireItem.key?, Option.some.injEq] at hkey
    obtain rfl := separate.eq_of_wireName mem hfield hkey
    refine ⟨.raw value, ?_, .raw unreferenced⟩
    cases answersField with
    | leaf fits =>
      by_cases hnull : value = .null
      · subst hnull
        exact .null
      · have hshape := FieldTraits.checkShape_eq_ok_iff.mp (fits.resolve_left hnull)
        exact .raw hnull unreferenced hshape
  | @nested _ type selected head below name mem names target found selectsBelow =>
    rw [wireItem, map_eq_ok] at hwire
    obtain ⟨selection, hselection, rfl⟩ := hwire
    simp only [wireNested, bind_eq_ok, pure_eq_ok] at hselection
    obtain ⟨wireHead, hhead, wiresBelow, hbelow, rfl⟩ := hselection
    rw [WireItem.key?, names.key?_eq hhead, Option.some.injEq] at hkey
    obtain rfl := separate.eq_of_wireName mem hfield hkey
    obtain ⟨-, erasedBelow⟩ := wireItems_eq_ok_iff.mp hbelow
    -- A single object is answered to a selection of its own, and a collection item by item.
    cases answersField with
    | one asked found' single answersBelow =>
      obtain rfl := Target.object.inj (target.symm.trans asked)
      obtain rfl := Option.some.inj (found.symm.trans found')
      obtain ⟨object, read, mirrors⟩ :=
        objects found (Nat.le_refl _) selectsBelow erasedBelow answersBelow
      exact ⟨.object object, .object target found single read, .object mirrors⟩
    | @many _ _ _ _ _ values asked found' collection answersBelow =>
      obtain rfl := Target.object.inj (target.symm.trans asked)
      obtain rfl := Option.some.inj (found.symm.trans found')
      have heach : ∀ part ∈ values, ∃ object,
          registry.instantiate type part = .ok object ∧ Mirrors part object := by
        intro part hpart
        exact objects found (Nat.le_of_lt (sizeOf_lt_of_mem hpart)) selectsBelow erasedBelow
          (answersBelow part hpart)
      obtain ⟨instances, hinstances⟩ := exists_forall₂_iff.mpr heach
      refine ⟨.list (instances.map .object), .list target found collection ?_, .list ?_⟩
      · rw [List.forall₂_map_right_iff]
        exact hinstances.imp fun _ _ h => .object h.1
      · exact hinstances.imp fun _ _ h => h.2

/-- An answer is read as an instance of the type that was asked, which mirrors the answer. -/
theorem Answers.exists_instantiate (holds : registry.HoldsBuilt) (built : owner.Built)
    (selects : ∀ item ∈ items, registry.Selects owner item)
    (erased : List.Forall₂ (fun item wire => wireItem item = .ok wire) items wires)
    (answers : registry.Answers owner wires value) :
    ∃ object, registry.instantiate owner value = .ok object ∧ object.type = owner ∧
      Mirrors value object := by
  induction value using size_induction generalizing owner items wires with
  | step value ih =>
    obtain ⟨members, rfl⟩ : ∃ members, value = .object members := by
      cases answers
      exact ⟨_, rfl⟩
    -- A field that was not selected is not answered and takes its default.
    have hfields : ∀ field ∈ owner.fields, ∃ entry : String × FieldValue, entry.1 = field.label ∧
        registry.ReadsField field (Table.get? field.wireQueryName members) entry.2 ∧
        MirrorsField field (Table.get? field.wireQueryName members) entry.2 := by
      intro field hfield
      cases hvalue : Table.get? field.wireQueryName members with
      | none => exact ⟨(field.label, absentValue field), rfl, .absent, .absent⟩
      | some value =>
        obtain ⟨held, read, mirrors⟩ := answers.exists_reads built.separate selects erased hfield
          hvalue fun found hsize hselects herased hanswers => by
            obtain ⟨object, read, -, mirrors⟩ := ih _
              (Nat.lt_of_le_of_lt hsize (sizeOf_lt_of_get?_eq_some hvalue)) (holds.type found)
              hselects herased hanswers
            exact ⟨object, read, mirrors⟩
        exact ⟨(field.label, held), rfl, .present read, mirrors⟩
    obtain ⟨values, hvalues⟩ := exists_forall₂_iff.mpr hfields
    have hlabels : Table.keys values = owner.fields.map (·.label) :=
      map_eq_of_forall₂ hvalues fun _ _ h => h.1
    have htypename : Table.get? discriminator members = some (.string owner.typename) := by
      cases answers with
      | object _ typename _ => exact typename
    refine ⟨⟨owner, values, []⟩, ?_, rfl, .object htypename hlabels ?_ rfl⟩
    -- The answer names the type itself, so no subtype is looked up.
    · rw [instantiate_eq_ok_iff]
      refine ⟨members, rfl, ?_, hvalues.imp fun _ _ h => ⟨h.1, h.2.1⟩, rfl⟩
      rw [htypename]
      exact .own
    -- A label belongs to one field, so what the instance holds is what was read for this field.
    · intro field hfield held hheld
      obtain ⟨other, hother, hlabel, -, mirrors⟩ :=
        exists_left_of_mem hvalues (Table.mem_of_get?_eq_some hheld)
      rwa [built.separate.eq_of_label hother hfield hlabel.symm] at mirrors

end

/-- A reply with one object under a root of its type is decoded to the instance of the object. -/
theorem decode_one_root (coherent : registry.Coherent) (registered : registry.Registered type)
    {root : String} (hroot : type.HasRoot root) (distinct : value.hasDistinctKeys = true)
    {object : Instance} (read : registry.instantiate type value = .ok object) :
    registry.decode (.object [("data", .object [(root, value)])]) =
      .ok { groups := [(root, [object])] } := by
  obtain ⟨members, rfl⟩ := exists_members_of_instantiate read
  rw [decode_eq_ok_iff]
  · refine ⟨_, rfl, .absent, .roots ?_⟩
    rw [decodeRoots_eq_ok_iff]
    refine .cons ⟨rfl, type, ?_, .cons read .nil⟩ .nil
    exact coherent.typeOfRoot?_iff.mpr ⟨registered, hroot⟩
  · simpa [Table.keys] using distinct

/-- Every answer to what a selection of a registered type emits is decoded to an instance of the
type that mirrors the answer. -/
theorem decode_answer (reachable : registry.Reachable) (registered : registry.Registered type)
    {selection : Selection} (names : selection.head.NamesType type)
    (selects : ∀ item ∈ selection.items, registry.Selects type item) {operation : OperationType}
    {fragments : List Fragment} {text : String}
    (compiled : document operation [selection] fragments = .ok text) :
    ∃ root wire definitions, operation.root? type = some root ∧
      wireRoot operation selection = .ok wire ∧ wire.head.key? = some root ∧
      text = operation.keyword ++ "\x7b" ++ wire.text ++ "\x7d" ++ definitions ∧
      ∀ answer, answer.hasDistinctKeys = true → registry.Answers type wire.items answer →
        ∃ object, registry.decode (.object [("data", .object [(root, answer)])]) =
            .ok { groups := [(root, [object])] } ∧
          object.type = type ∧ Mirrors answer object := by
  -- The text is that of one erased selection, with the definitions behind it.
  rw [document_eq, map_eq_ok] at compiled
  obtain ⟨wires, hwires, rfl⟩ := compiled
  simp only [wireDocument, List.isEmpty_cons, Bool.false_eq_true, if_false, bind_eq_ok, pure_eq_ok,
    List.mapM_cons, List.mapM_nil] at hwires
  obtain ⟨_, ⟨wire, hwire, _, rfl, rfl⟩, wireFragments, -, rfl⟩ := hwires
  have herase := hwire
  simp only [wireRoot, bind_eq_ok, pure_eq_ok] at herase
  obtain ⟨head, hhead, items, hitems, rfl⟩ := herase
  obtain ⟨root, hroot, hkey⟩ := names.key?_eq hhead
  obtain ⟨-, erased⟩ := wireItems_eq_ok_iff.mp hitems
  refine ⟨root, _, joined WireFragment.text wireFragments, hroot, hwire, hkey, ?_, ?_⟩
  · simp [WireDocument.text, joined]
  -- The root that was written belongs to the type in either table of roots.
  · intro answer distinct answers
    obtain ⟨object, read, htype, mirrors⟩ :=
      answers.exists_instantiate reachable.holdsBuilt (reachable.holdsBuilt.type registered) selects
        erased
    have hasRoot : type.HasRoot root := by
      cases operation with
      | query => exact .inl hroot
      | mutation => exact .inr hroot
    have hdecode := decode_one_root reachable.coherent registered hasRoot distinct read
    exact ⟨object, hdecode, htype, mirrors⟩

/-- One item is answered by an object with its key beside the discriminator. -/
theorem Answers.of_one (separate : SeparateFields owner.fields) (mem : field ∈ owner.fields)
    {wire : WireItem} (hkey : wire.key? = some field.wireQueryName)
    (answers : registry.AnswersField owner field wire value) :
    registry.Answers owner [wire] (.object
      [(discriminator, .string owner.typename), (field.wireQueryName, value)]) := by
  refine .object (fun key => ?_) ?_ ?_
  · simp [Table.keys, hkey, eq_comm]
  · rw [Table.get?_cons, if_pos rfl]
  · intro other hother asked hasked hsame found hfound
    obtain rfl := List.mem_singleton.mp hother
    rw [hkey, Option.some.injEq] at hsame
    obtain rfl := separate.eq_of_wireName mem hasked hsame
    rw [Table.get?_cons, if_neg (separate.wireName_ne field mem).symm, Table.get?_cons, if_pos rfl,
      Option.some.injEq] at hfound
    rwa [← hfound]

/-- The titles of the first books of a shelf. -/
def titlesOfShelf : Selection where
  head := .type (libraryType "shelf")
  items := [.selection {
    head := .operation (.argument (.field (libraryField "shelf" "books")) [("limit", "2")])
    items := [.field (libraryField "book" "title")] }]

/-- The titles of the first books are asked below the root name for mutations, and an answer with
one book is decoded to a shelf. -/
theorem titlesOfShelf_decode_answer :
    document .mutation [titlesOfShelf] [] = .ok
        "mutation\x7baddShelf\x7bbooks(limit:\"2\")\x7btitle,__typename\x7d,__typename\x7d\x7d" ∧
      ∃ object, library.decode (.object [("data", .object [("addShelf", .object [
          ("__typename", .string "Shelf"),
          ("books", .list [.object [
            ("__typename", .string "Book"), ("title", .string "Maps")]])])])]) =
              .ok { groups := [("addShelf", [object])] } ∧
        object.type = libraryType "shelf" := by
  have hshelf : library.Registered (libraryType "shelf") := rfl
  have hbook : library.type? "book" = some (libraryType "book") := rfl
  have hbooks : libraryField "shelf" "books" ∈ (libraryType "shelf").fields :=
    @ObjectType.mem_of_field? _ "books" _ rfl
  have htitle : libraryField "book" "title" ∈ (libraryType "book").fields :=
    @ObjectType.mem_of_field? _ "title" _ rfl
  refine ⟨rfl, ?_⟩
  obtain ⟨root, wire, definitions, hroot, hwire, -, -, h⟩ :=
    decode_answer library_reachable hshelf .bare
      (List.forall_mem_singleton.mpr (.nested hbooks (.call _) rfl hbook
        (List.forall_mem_singleton.mpr (.leaf htitle rfl))))
      (show document .mutation [titlesOfShelf] [] = .ok _ from rfl)
  obtain rfl := Option.some.inj hroot
  obtain rfl := Except.ok.inj hwire
  have separateShelf := (library_reachable.holdsBuilt.type hshelf).separate
  have separateBook := (library_reachable.holdsBuilt.type hbook).separate
  have hmaps : library.AnswersField (libraryType "book") (libraryField "book" "title")
      (.name "title") (.string "Maps") := .leaf (.inr rfl)
  have hlist : library.AnswersField (libraryType "shelf") (libraryField "shelf" "books")
      (.selection ⟨.call "books" [("limit", "2")], [.name "title"]⟩) (.list [_]) :=
    .many rfl hbook rfl (List.forall_mem_singleton.mpr (.of_one separateBook htitle rfl hmaps))
  obtain ⟨object, hdecode, htype, -⟩ := h _ (by decide) (.of_one separateShelf hbooks rfl hlist)
  exact ⟨object, hdecode, htype⟩

end Registry

end TypedQuery
