import TypedQuery.Proofs.Query.Legality
import TypedQuery.Proofs.Query.Wire

/-!
# Mutations as queries

A mutation is written as a query is, but for the names of its root heads. Take a tree and let the
types of its root heads answer queries under the root names that they have in mutations
(`Selection.withMutationRoot`). Then the tree as a mutation and the changed tree as a query have the
same text after the keyword, or both are refused at the same place, for the same reason
(`document_mutation`).

Below the root heads there is nothing for a mutation to choose. If all names in mutations are erased
there, of types and of fields, each document is what it was (`Selection.eraseBelow`).
-/

namespace TypedQuery

/-! ## Root heads with other roots -/

/-- A type that answers queries under the root name that it has in mutations. -/
def ObjectType.withMutationRoot (type : ObjectType) : ObjectType :=
  { type with queryRoot := type.mutateRoot }

/-- A root head whose type, bare or with arguments, has its root name in mutations for queries. -/
def Head.withMutationRoot : Head → Head
  | .type base => .type base.withMutationRoot
  | .operation (.argument (.type base) arguments) =>
    .operation (.argument (.type base.withMutationRoot) arguments)
  | other => other

/-- A root selection whose head has its root name in mutations for queries. -/
def Selection.withMutationRoot (selection : Selection) : Selection :=
  { selection with head := selection.head.withMutationRoot }

/-- The error as a query has it: a root name that is missing is one in queries. -/
def QueryError.ofQuery : QueryError → QueryError
  | .invalid (.noRoot type _) => .invalid (.noRoot type .query)
  | other => other

/-! ## Names in mutations erased -/

/-- A field without its name in mutations. -/
def Field.eraseMutation (field : Field) : Field := { field with mutateName := none }

/-- A type without its root name in mutations and those of its fields. -/
def ObjectType.eraseMutation (type : ObjectType) : ObjectType :=
  { type with mutateRoot := "", fields := type.fields.map Field.eraseMutation }

/-- An operation without names in mutations. -/
def Operation.eraseMutation : Operation → Operation
  | .argument (.type base) arguments => .argument (.type base.eraseMutation) arguments
  | .argument (.field field) arguments => .argument (.field field.eraseMutation) arguments
  | .on base => .on base.eraseMutation
  | .fragment name base => .fragment name base.eraseMutation
  | .fragmentRef name => .fragmentRef name

/-- A head without names in mutations. -/
def Head.eraseMutation : Head → Head
  | .type base => .type base.eraseMutation
  | .field key => .field key.eraseMutation
  | .name key => .name key
  | .operation inner => .operation inner.eraseMutation

mutual

/-- An item without names in mutations. -/
def Item.eraseMutation : Item → Item
  | .field key => .field key.eraseMutation
  | .name key => .name key
  | .selection inner => .selection inner.eraseMutation
  | .operation inner => .operation inner.eraseMutation

/-- A selection without names in mutations. -/
def Selection.eraseMutation : Selection → Selection
  | ⟨head, items⟩ => ⟨head.eraseMutation, eraseMutations items⟩

/-- Items without names in mutations. -/
def eraseMutations : List Item → List Item
  | [] => []
  | item :: rest => item.eraseMutation :: eraseMutations rest

end

/-- A root selection whose head alone has names in mutations. -/
def Selection.eraseBelow (selection : Selection) : Selection :=
  { selection with items := eraseMutations selection.items }

/-- A fragment definition without names in mutations. -/
def Fragment.eraseMutation (fragment : Fragment) : Fragment :=
  ⟨fragment.key.eraseMutation, eraseMutations fragment.items⟩

namespace Query

open Checked

variable {operation : OperationType} {text : String}

/-! ## Places of the changed tree -/

/-- A place of a tree when the root heads of the tree have their root names in mutations. -/
def Place.withMutationRoot : Place → Place
  | .roots selections => .roots (selections.map Selection.withMutationRoot)
  | .rootHead head => .rootHead head.withMutationRoot
  | other => other

mutual

/-- The places of an item do not change. -/
theorem itemPlaces_withMutationRoot : ∀ item : Item,
    (itemPlaces item).map Place.withMutationRoot = itemPlaces item
  | .field _ | .name _ => rfl
  | .selection selection => nestedPlaces_withMutationRoot selection
  | .operation _ => rfl

/-- The places of a selection below the root do not change. -/
theorem nestedPlaces_withMutationRoot : ∀ selection : Selection,
    (nestedPlaces selection).map Place.withMutationRoot = nestedPlaces selection
  | ⟨head, items⟩ => by
    rw [nestedPlaces, List.map_cons, List.map_cons, itemsPlaces_withMutationRoot items]
    rfl

/-- Nothing changes below a root head. -/
theorem itemsPlaces_withMutationRoot : ∀ items : List Item,
    (itemsPlaces items).map Place.withMutationRoot = itemsPlaces items
  | [] => rfl
  | item :: rest => by
    rw [itemsPlaces, List.map_append, itemPlaces_withMutationRoot item,
      itemsPlaces_withMutationRoot rest]

end

/-- Of a root selection only the place of the head changes. -/
theorem rootPlaces_withMutationRoot (selection : Selection) :
    rootPlaces selection.withMutationRoot = (rootPlaces selection).map Place.withMutationRoot := by
  rw [rootPlaces, rootPlaces, List.map_cons, List.map_cons, itemsPlaces_withMutationRoot]
  rfl

/-- The places of a fragment do not change. -/
theorem fragmentPlaces_withMutationRoot (fragment : Fragment) :
    (fragmentPlaces fragment).map Place.withMutationRoot = fragmentPlaces fragment := by
  rw [fragmentPlaces, List.map_cons, List.map_cons, itemsPlaces_withMutationRoot]
  rfl

/-- The changed tree has its places where the tree has them. -/
theorem places_withMutationRoot (selections : List Selection) (fragments : List Fragment) :
    places (selections.map Selection.withMutationRoot) fragments =
      (places selections fragments).map Place.withMutationRoot := by
  have hroots : (selections.map Selection.withMutationRoot).flatMap rootPlaces =
      (selections.flatMap rootPlaces).map Place.withMutationRoot := by
    rw [List.flatMap_map, List.map_flatMap]
    simp only [rootPlaces_withMutationRoot]
  have hfragments : fragments.flatMap fragmentPlaces =
      (fragments.flatMap fragmentPlaces).map Place.withMutationRoot := by
    rw [List.map_flatMap]
    simp only [fragmentPlaces_withMutationRoot]
  rw [places, places, List.map_cons, List.map_append, ← hroots, ← hfragments]
  rfl

/-- What may stand at a place of a mutation may stand at the changed place of a query. -/
theorem Place.legal_withMutationRoot_iff : ∀ place : Place,
    place.withMutationRoot.Legal .query ↔ place.Legal .mutation
  | .roots _ => not_congr List.map_eq_nil_iff
  | .rootHead (.type _) | .rootHead (.operation (.argument (.type _) _)) => Iff.rfl
  | .rootHead (.field _) | .rootHead (.name _) => Iff.rfl
  | .rootHead (.operation (.argument (.field _) _)) | .rootHead (.operation (.on _)) => Iff.rfl
  | .rootHead (.operation (.fragment _ _)) | .rootHead (.operation (.fragmentRef _)) => Iff.rfl
  | .nestedHead (.type _) | .nestedHead (.field _) | .nestedHead (.name _) => Iff.rfl
  | .nestedHead (.operation (.argument (.type _) _)) => Iff.rfl
  | .nestedHead (.operation (.argument (.field _) _)) | .nestedHead (.operation (.on _)) => Iff.rfl
  | .nestedHead (.operation (.fragment _ _)) | .nestedHead (.operation (.fragmentRef _)) => Iff.rfl
  | .list _ | .item _ | .key _ => Iff.rfl

/-- What may not stand at a place is refused for the same reason. -/
theorem Place.error_withMutationRoot : ∀ place : Place,
    place.withMutationRoot.error .query = (place.error .mutation).ofQuery
  | .rootHead (.type _) | .rootHead (.operation (.argument (.type _) _)) => rfl
  | .rootHead (.field _) | .rootHead (.name _) => rfl
  | .rootHead (.operation (.argument (.field _) _)) | .rootHead (.operation (.on _)) => rfl
  | .rootHead (.operation (.fragment _ _)) | .rootHead (.operation (.fragmentRef _)) => rfl
  | .nestedHead (.operation (.argument (.type _) _)) => rfl
  | .nestedHead (.operation (.argument (.field _) _)) | .nestedHead (.operation (.on _)) => rfl
  | .nestedHead (.operation (.fragment _ _)) | .nestedHead (.operation (.fragmentRef _)) => rfl
  | .nestedHead (.type _) | .nestedHead (.field _) | .nestedHead (.name _) => rfl
  | .roots _ | .list _ | .item _ | .key _ => rfl

/-! ## Texts of the changed tree -/

/-- The root name in mutations is the one that the changed type has for queries. -/
theorem rootName_withMutationRoot {type : ObjectType} (h : rootName .mutation type = .ok text) :
    rootName .query type.withMutationRoot = .ok text := by
  rw [rootName_eq_ok_iff] at h ⊢
  exact h

/-- A root head that can be written in a mutation is written in the query as well, and alike. -/
theorem rootHead_withMutationRoot : ∀ {head : Head}, rootHead .mutation head = .ok text →
    rootHead .query head.withMutationRoot = .ok text
  | .type _, h => rootName_withMutationRoot h
  | .operation (.argument (.type base) arguments), h => by
    rw [rootHead, bind_eq_ok] at h
    obtain ⟨root, hroot, h⟩ := h
    rw [Head.withMutationRoot, rootHead, rootName_withMutationRoot hroot]
    exact h
  | .field _, h | .name _, h | .operation (.argument (.field _) _), h => h
  | .operation (.on _), h | .operation (.fragment _ _), h | .operation (.fragmentRef _), h => h

/-- A root selection that can be written in a mutation is written in the query as well, and
alike. -/
theorem rootText_withMutationRoot {selection : Selection}
    (h : rootText .mutation selection = .ok text) :
    rootText .query selection.withMutationRoot = .ok text := by
  rw [rootText, bind_eq_ok] at h
  obtain ⟨head, hhead, h⟩ := h
  rw [rootText, Selection.withMutationRoot, rootHead_withMutationRoot hhead]
  exact h

/-- Parts that are written as other parts are, one after the other. -/
theorem allTexts_map_eq_ok {α : Type} {write writeNext : α → Except QueryError String}
    {change : α → α}
    (each : ∀ part text, write part = .ok text → writeNext (change part) = .ok text)
    {parts : List α} (h : allTexts write parts = .ok text) :
    allTexts writeNext (parts.map change) = .ok text := by
  induction parts generalizing text with
  | nil => exact h
  | cons part rest ih =>
    simp only [allTexts, bind_eq_ok, pure_eq_ok] at h
    obtain ⟨first, hfirst, more, hmore, rfl⟩ := h
    rw [List.map_cons, allTexts, each part first hfirst, ok_bind, ih hmore]
    rfl

/-- What follows the keyword of a mutation follows that of the query. -/
theorem exists_document_eq_ok {selections : List Selection} {fragments : List Fragment}
    (h : document .mutation selections fragments = .ok text) :
    ∃ rest, text = OperationType.mutation.keyword ++ rest ∧
      document .query (selections.map Selection.withMutationRoot) fragments =
        .ok (OperationType.query.keyword ++ rest) := by
  rw [document] at h
  split at h
  · cases h
  · rename_i hsome
    simp only [bind_eq_ok, pure_eq_ok] at h
    obtain ⟨roots, hroots, definitions, hdefinitions, rfl⟩ := h
    have hroots := allTexts_map_eq_ok (fun _ _ => rootText_withMutationRoot) hroots
    refine ⟨"\x7b" ++ roots ++ "\x7d" ++ definitions, by simp only [String.append_assoc], ?_⟩
    rw [document, if_neg (by simpa using hsome), hroots, ok_bind, hdefinitions, ok_bind]
    simp only [String.append_assoc, pure_eq_ok]

/-! ## Texts without names in mutations -/

/-- A head below the root has no name in mutations to write. -/
theorem nestedHead_eraseMutation : ∀ head : Head, nestedHead head.eraseMutation = nestedHead head
  | .type _ | .field _ | .name _ | .operation (.on _) => rfl
  | .operation (.argument (.type _) _) | .operation (.argument (.field _) _) => rfl
  | .operation (.fragment _ _) | .operation (.fragmentRef _) => rfl

mutual

/-- An item has no name in mutations to write. -/
theorem itemText_eraseMutation : ∀ item : Item, itemText item.eraseMutation = itemText item
  | .field _ | .name _ => rfl
  | .selection selection => nestedText_eraseMutation selection
  | .operation (.argument (.type _) _) | .operation (.argument (.field _) _) => rfl
  | .operation (.on _) | .operation (.fragment _ _) | .operation (.fragmentRef _) => rfl

/-- A selection below the root has no name in mutations to write. -/
theorem nestedText_eraseMutation : ∀ selection : Selection,
    nestedText selection.eraseMutation = nestedText selection
  | ⟨head, items⟩ => by
    rw [Selection.eraseMutation, nestedText, nestedText, nestedHead_eraseMutation,
      itemsText_eraseMutations items]

/-- The names in mutations do not occur below a root head. -/
theorem itemsText_eraseMutations : ∀ items : List Item,
    itemsText (eraseMutations items) = itemsText items
  | [] => rfl
  | item :: rest => by
    rw [eraseMutations, itemsText, itemsText, itemText_eraseMutation item,
      moreItems_eraseMutations rest]

/-- The items behind the first have no name in mutations to write. -/
theorem moreItems_eraseMutations : ∀ items : List Item,
    moreItems (eraseMutations items) = moreItems items
  | [] => rfl
  | item :: rest => by
    rw [eraseMutations, moreItems, moreItems, itemText_eraseMutation item,
      moreItems_eraseMutations rest]

end

/-- A root selection writes names in mutations in its head alone. -/
theorem rootText_eraseBelow (selection : Selection) :
    rootText operation selection.eraseBelow = rootText operation selection := by
  rw [rootText, rootText, Selection.eraseBelow, itemsText_eraseMutations]

/-- A fragment has no name in mutations to write. -/
theorem fragmentText_eraseMutation : ∀ fragment : Fragment,
    fragmentText fragment.eraseMutation = fragmentText fragment
  | ⟨.fragment _ _, items⟩ => by
    unfold fragmentText Fragment.eraseMutation
    rw [itemsText_eraseMutations]
    rfl
  | ⟨.argument (.type _) _, _⟩ | ⟨.argument (.field _) _, _⟩ => rfl
  | ⟨.on _, _⟩ | ⟨.fragmentRef _, _⟩ => rfl

/-- Parts that are changed and still written as before have the same text. -/
theorem allTexts_map {α : Type} {write : α → Except QueryError String} {change : α → α}
    (each : ∀ part, write (change part) = write part) (parts : List α) :
    allTexts write (parts.map change) = allTexts write parts := by
  induction parts with
  | nil => rfl
  | cons part rest ih => rw [List.map_cons, allTexts, allTexts, each, ih]

/-- A document is what it was when all names in mutations below its root heads are erased. -/
theorem document_erase (operation : OperationType) (selections : List Selection)
    (fragments : List Fragment) :
    document operation (selections.map Selection.eraseBelow)
      (fragments.map Fragment.eraseMutation) = document operation selections fragments := by
  rw [document, document, List.isEmpty_map, allTexts_map rootText_eraseBelow,
    allTexts_map fragmentText_eraseMutation]

/-! ## Mutations and queries -/

/-- A tree as a mutation and the tree as a query, when its root heads have their root names in
mutations, have the same text after the keyword, or both are refused for the first place that is not
legal, which is the same in both, with the same error. Below the root heads no name in mutations is
written, whatever the kind of document. -/
theorem document_mutation (selections : List Selection) (fragments : List Fragment) :
    ((∃ rest, document .mutation selections fragments =
        .ok (OperationType.mutation.keyword ++ rest) ∧
      document .query (selections.map Selection.withMutationRoot) fragments =
        .ok (OperationType.query.keyword ++ rest)) ∨
    ∃ before place after, places selections fragments = before ++ place :: after ∧
      places (selections.map Selection.withMutationRoot) fragments =
        before.map Place.withMutationRoot ++
          place.withMutationRoot :: after.map Place.withMutationRoot ∧
      (∀ earlier ∈ before,
        earlier.Legal .mutation ∧ earlier.withMutationRoot.Legal .query) ∧
      ¬ place.Legal .mutation ∧ ¬ place.withMutationRoot.Legal .query ∧
      document .mutation selections fragments = .error (place.error .mutation) ∧
      document .query (selections.map Selection.withMutationRoot) fragments =
        .error (place.error .mutation).ofQuery) ∧
    ∀ operation, document operation (selections.map Selection.eraseBelow)
      (fragments.map Fragment.eraseMutation) = document operation selections fragments := by
  refine ⟨?_, fun operation => document_erase operation selections fragments⟩
  -- A text carries over as it is. An error does not, so the query is followed through its own
  -- places, which are the changed ones.
  cases h : document .mutation selections fragments with
  | ok text =>
    left
    obtain ⟨rest, rfl, hquery⟩ := exists_document_eq_ok h
    exact ⟨rest, rfl, hquery⟩
  | error error =>
    right
    obtain ⟨before, place, after, hplaces, legal, illegal, rfl⟩ :=
      (document_follows .mutation selections fragments).eq_error_iff.mp h
    have hchanged : places (selections.map Selection.withMutationRoot) fragments =
        before.map Place.withMutationRoot ++
          place.withMutationRoot :: after.map Place.withMutationRoot := by
      rw [places_withMutationRoot, hplaces, List.map_append, List.map_cons]
    have hillegal : ¬ place.withMutationRoot.Legal .query :=
      place.legal_withMutationRoot_iff.not.mpr illegal
    have hlegal : ∀ earlier ∈ before,
        earlier.Legal .mutation ∧ earlier.withMutationRoot.Legal .query :=
      fun earlier hmem =>
        ⟨legal earlier hmem, earlier.legal_withMutationRoot_iff.mpr (legal earlier hmem)⟩
    refine ⟨before, place, after, hplaces, hchanged, hlegal, illegal, hillegal, rfl, ?_⟩
    rw [(document_follows .query _ fragments).eq_error_iff]
    refine ⟨_, _, _, hchanged, List.forall_mem_map.mpr fun earlier hmem => (hlegal earlier hmem).2,
      hillegal, place.error_withMutationRoot.symm⟩

/-- The same type is named as in mutations at the root, and as in queries below it. -/
example :
    let shelf : ObjectType :=
      { name := "shelf", typename := "Shelf", queryRoot := "shelves", mutateRoot := "addShelf" }
    document .mutation [⟨.operation (.argument (.type shelf) [("label", "maps")]),
        [.selection ⟨.operation (.argument (.type shelf) [("floor", "1")]), [.name "label"]⟩]⟩] [] =
      .ok ("mutation\x7baddShelf(label:\"maps\")\x7b" ++
        "shelves(floor:\"1\")\x7blabel,__typename\x7d,__typename\x7d\x7d") := rfl

end Query

end TypedQuery
