import TypedQuery.Proofs.Query.Legality
import TypedQuery.Proofs.Query.Unambiguous

/-!
# Arguments on fields with items

A field that heads a selection below the root stands there bare or with arguments. A bare one must
refer to an object type, or there is nothing that its items could belong to. For one with arguments
this is not asked: arguments make a legal head of any field. So an accepted tree may list items of a
scalar field, but only below a field with arguments, and arguments can turn a refused tree into an
accepted one, but only if they are given to such a field (`listed_fields_iff`).

Both follow from the places of a tree. Adding arguments changes one head and no other place,
wherever in the tree it is (`Argued.legal_iff`).
-/

namespace TypedQuery

/-- Whether the values of a field are objects of a type. -/
def Field.RefersToObject (field : Field) : Prop := ∃ name, field.target = .object name

/-- The field that the items below a head belong to, bare or with arguments. -/
def Head.listedField? : Head → Option Field
  | .field listed | .operation (.argument (.field listed) _) => some listed
  | _ => none

/-- The items of a head belong to a field just if the head is this field, bare or with arguments. -/
theorem Head.listedField?_eq_some_iff {head : Head} {field : Field} :
    head.listedField? = some field ↔
      head = .field field ∨
        ∃ arguments, head = .operation (.argument (.field field) arguments) := by
  constructor
  · intro h
    unfold listedField? at h
    split at h
    · obtain rfl := Option.some.inj h
      exact .inl rfl
    · obtain rfl := Option.some.inj h
      exact .inr ⟨_, rfl⟩
    · cases h
  · rintro (rfl | ⟨arguments, rfl⟩) <;> rfl

namespace Query

variable {operation : OperationType} {field : Field}

/-! ## Adding arguments -/

/-- Two selections that differ in the arguments of one field that heads one of them, or a selection
inside of them at any depth: the first has the field bare. -/
inductive Argued (field : Field) : Selection → Selection → Prop
  | head (arguments : List (String × String)) (items : List Item) :
      Argued field ⟨.field field, items⟩ ⟨.operation (.argument (.field field) arguments), items⟩
  | inside (head : Head) (before after : List Item) {bare argued : Selection}
      (inner : Argued field bare argued) :
      Argued field ⟨head, before ++ .selection bare :: after⟩
        ⟨head, before ++ .selection argued :: after⟩

/-- Two trees that differ in the arguments of one field that heads a selection below the root. -/
inductive ArguedTree (field : Field) :
    List Selection → List Fragment → List Selection → List Fragment → Prop
  | root (before after : List Selection) (head : Head) (first last : List Item)
      (fragments : List Fragment) {bare argued : Selection} (inner : Argued field bare argued) :
      ArguedTree field (before ++ ⟨head, first ++ .selection bare :: last⟩ :: after) fragments
        (before ++ ⟨head, first ++ .selection argued :: last⟩ :: after) fragments
  | fragment (selections : List Selection) (before after : List Fragment) (key : Operation)
      (first last : List Item) {bare argued : Selection} (inner : Argued field bare argued) :
      ArguedTree field selections (before ++ ⟨key, first ++ .selection bare :: last⟩ :: after)
        selections (before ++ ⟨key, first ++ .selection argued :: last⟩ :: after)

/-! ## Places with and without the arguments -/

theorem itemsPlaces_append (items more : List Item) :
    itemsPlaces (items ++ more) = itemsPlaces items ++ itemsPlaces more := by
  induction items with
  | nil => rw [List.nil_append, itemsPlaces, List.nil_append]
  | cons item rest ih => rw [List.cons_append, itemsPlaces, itemsPlaces, ih, List.append_assoc]

section

variable {p : Prop} {changed unchanged : List Place} {bare argued : Selection}

/-- A place in front changes nothing. -/
theorem cons_legal_iff (front : Place)
    (inner : (∀ place ∈ unchanged, place.Legal operation) ↔
      (∀ place ∈ changed, place.Legal operation) ∧ p) :
    (∀ place ∈ front :: unchanged, place.Legal operation) ↔
      (∀ place ∈ front :: changed, place.Legal operation) ∧ p := by
  rw [List.forall_mem_cons, List.forall_mem_cons, inner, and_assoc]

/-- Neither do the places before and after. -/
theorem append_legal_iff (before after : List Place)
    (inner : (∀ place ∈ unchanged, place.Legal operation) ↔
      (∀ place ∈ changed, place.Legal operation) ∧ p) :
    (∀ place ∈ before ++ (unchanged ++ after), place.Legal operation) ↔
      (∀ place ∈ before ++ (changed ++ after), place.Legal operation) ∧ p := by
  simp only [List.forall_mem_append, inner]
  rw [and_right_comm, ← and_assoc]

/-- A list of items changes as the places of one selection in it do. -/
theorem list_legal_iff (first last : List Item)
    (inner : (∀ place ∈ nestedPlaces bare, place.Legal operation) ↔
      (∀ place ∈ nestedPlaces argued, place.Legal operation) ∧ p) :
    (∀ place ∈ Place.list (first ++ .selection bare :: last) ::
        itemsPlaces (first ++ .selection bare :: last), place.Legal operation) ↔
      (∀ place ∈ Place.list (first ++ .selection argued :: last) ::
        itemsPlaces (first ++ .selection argued :: last), place.Legal operation) ∧ p := by
  have hplaces : ∀ selection : Selection,
      (∀ place ∈ Place.list (first ++ .selection selection :: last) ::
        itemsPlaces (first ++ .selection selection :: last), place.Legal operation) ↔
      ∀ place ∈ itemsPlaces first ++ (nestedPlaces selection ++ itemsPlaces last),
        place.Legal operation := by
    intro selection
    have hlist : (Place.list (first ++ .selection selection :: last)).Legal operation :=
      List.append_ne_nil_of_right_ne_nil _ (List.cons_ne_nil _ _)
    rw [List.forall_mem_cons, and_iff_right hlist, itemsPlaces_append, itemsPlaces, itemPlaces]
  rw [hplaces, hplaces]
  exact append_legal_iff _ _ inner

/-- Arguments on a head make one place legal that is not unless the field refers to an object. -/
theorem Argued.legal_iff (h : Argued field bare argued) :
    (∀ place ∈ nestedPlaces bare, place.Legal operation) ↔
      (∀ place ∈ nestedPlaces argued, place.Legal operation) ∧ field.RefersToObject := by
  induction h with
  | head arguments items =>
    have hbare : (Place.nestedHead (.field field)).Legal operation ↔ field.RefersToObject := Iff.rfl
    have hargued : (Place.nestedHead (.operation (.argument (.field field) arguments))).Legal
        operation := trivial
    simp only [nestedPlaces, List.forall_mem_cons, hbare, hargued, true_and]
    exact and_comm
  | inside head before after _ ih =>
    rw [nestedPlaces, nestedPlaces]
    exact cons_legal_iff _ (list_legal_iff before after ih)

end

/-- A tree with a bare field is legal just if the tree with the arguments is and the field refers to
an object, wherever in the tree the field is. -/
theorem ArguedTree.legal_iff {bare argued : List Selection} {fragments definitions : List Fragment}
    (h : ArguedTree field bare fragments argued definitions) :
    (∀ place ∈ places bare fragments, place.Legal operation) ↔
      (∀ place ∈ places argued definitions, place.Legal operation) ∧ field.RefersToObject := by
  cases h with
  | root before after head first last _ inner =>
    -- The place of all roots is legal in either tree, since one of them is the changed selection.
    -- The other places are those before the selection, its own, and those after it.
    have hplaces : ∀ selection : Selection,
        (∀ place ∈ places (before ++ selection :: after) fragments, place.Legal operation) ↔
        ∀ place ∈ before.flatMap rootPlaces ++ (rootPlaces selection ++
          (after.flatMap rootPlaces ++ fragments.flatMap fragmentPlaces)),
          place.Legal operation := by
      intro selection
      have hroots : (Place.roots (before ++ selection :: after)).Legal operation :=
        List.append_ne_nil_of_right_ne_nil _ (List.cons_ne_nil _ _)
      rw [places, List.forall_mem_cons, and_iff_right hroots, List.flatMap_append,
        List.flatMap_cons, List.append_assoc, List.append_assoc]
    rw [hplaces, hplaces]
    exact append_legal_iff _ _ (cons_legal_iff _ (list_legal_iff first last inner.legal_iff))
  | fragment _ before after key first last inner =>
    -- In a fragment the roots are the same in both trees, their own place included.
    have hplaces : ∀ definition : Fragment, places bare (before ++ definition :: after) =
        .roots bare :: (bare.flatMap rootPlaces ++ before.flatMap fragmentPlaces ++
          (fragmentPlaces definition ++ after.flatMap fragmentPlaces)) := by
      intro definition
      rw [places, List.flatMap_append, List.flatMap_cons, List.append_assoc]
    rw [hplaces, hplaces]
    refine cons_legal_iff _ (append_legal_iff _ _ ?_)
    exact cons_legal_iff _ (list_legal_iff first last inner.legal_iff)

/-! ## What may list items -/

/-- In an accepted tree every bare field that lists items refers to an object type, and all fields
that do so refer to one exactly when those with arguments do. Giving a field that lists items
arguments makes a tree accepted that was not, exactly when the tree has no other fault and the field
refers to no object type. -/
theorem listed_fields_iff (operation : OperationType) (selections : List Selection)
    (fragments : List Fragment) :
    (∀ text, document operation selections fragments = .ok text →
      (∀ field, .nestedHead (.field field) ∈ places selections fragments → field.RefersToObject) ∧
      ((∀ head field, .nestedHead head ∈ places selections fragments →
          head.listedField? = some field → field.RefersToObject) ↔
        ∀ field arguments,
          .nestedHead (.operation (.argument (.field field) arguments)) ∈
            places selections fragments → field.RefersToObject)) ∧
    ∀ field argued definitions, ArguedTree field selections fragments argued definitions →
      ((∃ text, document operation selections fragments = .ok text) ↔
        (∃ text, document operation argued definitions = .ok text) ∧ field.RefersToObject) := by
  have hok := fun selections fragments =>
    (document_follows operation selections fragments).exists_eq_ok_iff
  refine ⟨fun text written => ?_, fun field argued definitions h => ?_⟩
  · have legal := (hok selections fragments).mp ⟨text, written⟩
    have hbare : ∀ field : Field, .nestedHead (.field field) ∈ places selections fragments →
        field.RefersToObject := fun field hmem => legal _ hmem
    refine ⟨hbare, fun h field arguments hmem => h _ field hmem rfl, ?_⟩
    intro h head field hmem hfield
    -- A bare field is legal only with an object behind it, so only one with arguments is left.
    rcases Head.listedField?_eq_some_iff.mp hfield with rfl | ⟨arguments, rfl⟩
    · exact hbare field hmem
    · exact h field arguments hmem
  · rw [hok, hok, h.legal_iff]

/-- Books with the items of one head below them. -/
def booksListing (head : Head) : List Selection :=
  [⟨.type bookType, [.selection ⟨head, [.name "name"]⟩]⟩]

/-- The head of a field of books with an argument. -/
def inEnglish (field : Field) : Head :=
  .operation (.argument (.field field) [("language", "en")])

theorem arguedTree_booksListing (field : Field) :
    ArguedTree field (booksListing (.field field)) [] (booksListing (inEnglish field)) [] :=
  .root [] [] (.type bookType) [] [] [] (.head [("language", "en")] [.name "name"])

/-- The authors of a book are objects, so they list items with arguments as they do without. -/
theorem authorsInEnglish_listed :
    (∃ text, document .query (booksListing (inEnglish (bookType.fields.getD 1 default))) [] =
      .ok text) ∧ (bookType.fields.getD 1 default).RefersToObject :=
  ((listed_fields_iff .query (booksListing (.field (bookType.fields.getD 1 default))) []).2 _ _ _
    (arguedTree_booksListing _)).mp ⟨_, rfl⟩

/-- The title of a book is no object, and yet it lists an item when it has an argument, which is
refused without. -/
theorem titleInEnglish_listed :
    document .query (booksListing (inEnglish (bookType.fields.getD 0 default))) [] =
      .ok "query\x7bbooks\x7btitle(language:\"en\")\x7bname,__typename\x7d,__typename\x7d\x7d" ∧
    document .query (booksListing (.field (bookType.fields.getD 0 default))) [] =
      .error (.invalid (.notAnObject "name")) ∧
    .nestedHead (inEnglish (bookType.fields.getD 0 default)) ∈
      places (booksListing (inEnglish (bookType.fields.getD 0 default))) [] ∧
    ¬ (bookType.fields.getD 0 default).RefersToObject :=
  ⟨rfl, rfl, .tail _ (.tail _ (.tail _ (.head _))), nofun⟩

end Query

end TypedQuery
