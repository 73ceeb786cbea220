import TypedQuery.Proofs.Checked
import TypedQuery.Query.Text

/-!
# Legal trees

What may stand in a tree depends on the place: at the root other heads are legal than below it, and
an operation is legal as a head, as an item or as the key of a fragment, but never as two of these.
`places` lists the places of a tree in the order of its text, `Place.Legal` says for each kind of
place what may stand there, and `Place.error` what is said of anything else.

A tree has a text exactly when all its places are legal, and it is refused for the first place that
is not (`document_eq_iff`). Writing goes through the places from left to right (`Follows`), so parts
of a tree that are written one after the other have their places one after the other.
-/

namespace TypedQuery.Query

open Checked

variable {operation : OperationType} {α β : Type}

/-! ## Places -/

/-- A place of a tree, with what stands there. -/
inductive Place where
  /-- The place of all root selections together. -/
  | roots (selections : List Selection)
  | rootHead (head : Head)
  | nestedHead (head : Head)
  /-- The place of all items below a head or a key. -/
  | list (items : List Item)
  /-- The place of an operation among items. -/
  | item (inner : Operation)
  /-- The place that names and types a fragment. -/
  | key (inner : Operation)

/-- What may stand at a place. Only root heads depend on the kind of document, and arguments below
the root may be given to any field. -/
def Place.Legal (operation : OperationType) : Place → Prop
  | .roots selections => selections ≠ []
  | .rootHead (.type type) => operation.root? type ≠ none
  | .rootHead (.operation (.argument (.type type) _)) => operation.root? type ≠ none
  | .rootHead (.operation (.on _)) => True
  | .rootHead _ => False
  | .nestedHead (.field field) => ∃ name, field.target = .object name
  | .nestedHead (.operation (.argument (.field _) _)) => True
  | .nestedHead (.operation (.argument (.type type) _)) => type.queryRoot? ≠ none
  | .nestedHead (.operation (.on _)) => True
  | .nestedHead _ => False
  | .list items => items ≠ []
  | .item inner => inner.kind = .fragmentRef
  | .key inner => inner.kind = .fragment

/-- The error of what may not stand at a place. -/
def Place.error (operation : OperationType) : Place → QueryError
  | .roots _ => .invalid .noSelections
  | .rootHead (.type type) => .invalid (.noRoot type.name operation)
  | .rootHead (.field field) => .invalid (.fieldAtRoot field.label)
  | .rootHead (.name name) => .invalid (.nameAtRoot name)
  | .rootHead (.operation (.argument (.type type) _)) => .invalid (.noRoot type.name operation)
  | .rootHead (.operation (.argument (.field field) _)) => .invalid (.fieldAtRoot field.label)
  | .rootHead (.operation inner) => .illegalOperation inner.kind [.argument, .on]
  | .nestedHead (.type type) => .invalid (.typeBelowRoot type.name)
  | .nestedHead (.field field) => .invalid (.notAnObject field.label)
  | .nestedHead (.name name) => .invalid (.nameBelowRoot name)
  | .nestedHead (.operation (.argument (.type type) _)) => .invalid (.noRoot type.name .query)
  | .nestedHead (.operation inner) => .illegalOperation inner.kind [.argument, .on]
  | .list _ => .invalid .noItems
  | .item inner => .illegalOperation inner.kind [.fragmentRef]
  | .key inner => .illegalOperation inner.kind [.fragment]

mutual

/-- The places of an item. -/
def itemPlaces : Item → List Place
  | .field _ | .name _ => []
  | .selection selection => nestedPlaces selection
  | .operation inner => [.item inner]

/-- The places of a selection below the root: its head, its list of items, and those in the list. -/
def nestedPlaces : Selection → List Place
  | ⟨head, items⟩ => .nestedHead head :: .list items :: itemsPlaces items

/-- The places in a list of items. -/
def itemsPlaces : List Item → List Place
  | [] => []
  | item :: rest => itemPlaces item ++ itemsPlaces rest

end

/-- The places of a root selection. -/
def rootPlaces (selection : Selection) : List Place :=
  .rootHead selection.head :: .list selection.items :: itemsPlaces selection.items

/-- The places of a fragment definition. -/
def fragmentPlaces (fragment : Fragment) : List Place :=
  .key fragment.key :: .list fragment.items :: itemsPlaces fragment.items

/-- The places of a tree, depth first and from left to right. -/
def places (selections : List Selection) (fragments : List Fragment) : List Place :=
  .roots selections :: (selections.flatMap rootPlaces ++ fragments.flatMap fragmentPlaces)

/-! ## Going through places -/

/-- Whether a computation goes through places one after the other: it comes to a result if all of
them are legal, and stops with the error of the first one that is not. -/
inductive Follows (operation : OperationType) : List Place → Except QueryError α → Prop
  | ok {places : List Place} {a : α} (legal : ∀ place ∈ places, place.Legal operation) :
      Follows operation places (.ok a)
  | error {before after : List Place} {place : Place}
      (legal : ∀ place ∈ before, place.Legal operation) (illegal : ¬ place.Legal operation) :
      Follows operation (before ++ place :: after) (.error (place.error operation))

theorem Follows.nil (a : α) : Follows operation [] (.ok a : Except QueryError α) :=
  .ok fun _ h => absurd h List.not_mem_nil

/-- A place that is not legal is as far as it goes. -/
theorem Follows.stop (place : Place) (illegal : ¬ place.Legal operation) {rest : List Place} :
    Follows operation (place :: rest) (.error (place.error operation) : Except QueryError α) :=
  @Follows.error α operation [] rest place (fun _ h => absurd h List.not_mem_nil) illegal

/-- A legal place changes nothing. -/
theorem Follows.cons {place : Place} {rest : List Place} {x : Except QueryError α}
    (legal : place.Legal operation) (h : Follows operation rest x) :
    Follows operation (place :: rest) x := by
  cases h with
  | ok legalRest => exact .ok (List.forall_mem_cons.mpr ⟨legal, legalRest⟩)
  | error legalBefore illegal =>
    rw [← List.cons_append]
    exact .error (List.forall_mem_cons.mpr ⟨legal, legalBefore⟩) illegal

/-- Computations one after the other go through their places one after the other. -/
theorem Follows.bind {first rest : List Place} {x : Except QueryError α}
    {f : α → Except QueryError β} (h : Follows operation first x)
    (next : ∀ a, Follows operation rest (f a)) : Follows operation (first ++ rest) (x >>= f) := by
  -- The first computation decides: if it stops, the second does not run, and the places of the
  -- second come after the one at which it stopped.
  cases h with
  | @ok _ a legal =>
    rw [ok_bind]
    generalize f a = y, next a = hnext
    cases hnext with
    | ok legalRest => exact .ok (List.forall_mem_append.mpr ⟨legal, legalRest⟩)
    | error legalBefore illegal =>
      rw [← List.append_assoc]
      exact .error (List.forall_mem_append.mpr ⟨legal, legalBefore⟩) illegal
  | error legal illegal =>
    rw [error_bind, List.append_assoc, List.cons_append]
    exact .error legal illegal

/-- What is made of a result does not matter. -/
theorem Follows.map {places : List Place} {x : Except QueryError α} {f : α → β}
    (h : Follows operation places x) : Follows operation places (do return f (← x)) := by
  rw [← List.append_nil places]
  exact h.bind fun a => .nil (f a)

/-- A computation that goes through places has a result just if all of them are legal. -/
theorem Follows.exists_eq_ok_iff {places : List Place} {x : Except QueryError α}
    (h : Follows operation places x) :
    (∃ a, x = .ok a) ↔ ∀ place ∈ places, place.Legal operation := by
  cases h with
  | ok legal => exact iff_of_true ⟨_, rfl⟩ legal
  | error _ illegal =>
    refine iff_of_false (by simp) fun legal => illegal (legal _ ?_)
    exact List.mem_append_right _ List.mem_cons_self

open Classical in
/-- A computation that goes through places fails just with the error of the first illegal one. -/
theorem Follows.eq_error_iff {places : List Place} {x : Except QueryError α}
    (h : Follows operation places x) {error : QueryError} :
    x = .error error ↔ ∃ before place after, places = before ++ place :: after ∧
      (∀ earlier ∈ before, earlier.Legal operation) ∧ ¬ place.Legal operation ∧
      error = place.error operation := by
  cases h with
  | ok legal =>
    refine iff_of_false (by simp) ?_
    rintro ⟨before, place, after, rfl, -, illegal, -⟩
    exact illegal (legal _ (List.mem_append_right _ List.mem_cons_self))
  | @error before after place legal illegal =>
    constructor
    · intro h
      exact ⟨before, place, after, rfl, legal, illegal, (Except.error.inj h).symm⟩
    · rintro ⟨otherBefore, other, otherAfter, heq, otherLegal, otherIllegal, rfl⟩
      -- Both are the first place that is not legal.
      have hfirst : ∀ {before after : List Place} {place : Place},
          (∀ earlier ∈ before, earlier.Legal operation) → ¬ place.Legal operation →
          (before ++ place :: after).find? (fun place => ¬ place.Legal operation) = some place := by
        intro before after place legal illegal
        exact List.find?_eq_some_iff_append.mpr
          ⟨by simpa using illegal, before, after, rfl, by simpa using legal⟩
      have hplace : (before ++ place :: after).find? (fun place => ¬ place.Legal operation) =
          some place := hfirst legal illegal
      rw [heq, hfirst otherLegal otherIllegal, Option.some.injEq] at hplace
      rw [hplace]

/-! ## Writing goes through the places -/

/-- A root name is there if it is legal to ask for it. -/
theorem rootName_follows {kind : OperationType} {type : ObjectType} (place : Place)
    (legal : place.Legal operation ↔ kind.root? type ≠ none)
    (error : place.error operation = .invalid (.noRoot type.name kind)) :
    Follows operation [place] (rootName kind type) := by
  rw [rootName]
  cases hroot : kind.root? type with
  | some root => exact (Follows.nil root).cons (legal.mpr (by simp [hroot]))
  | none =>
    rw [← error]
    exact .stop place fun h => legal.mp h hroot

/-- Writing a root head looks at its place alone. -/
theorem rootHead_follows (operation : OperationType) (head : Head) :
    Follows operation [.rootHead head] (rootHead operation head) := by
  cases head with
  | type type => exact rootName_follows _ Iff.rfl rfl
  | field field => exact .stop _ id
  | name name => exact .stop _ id
  | operation inner =>
    cases inner with
    | argument target arguments =>
      cases target with
      | type type => exact (rootName_follows _ Iff.rfl rfl).map
      | field field => exact .stop _ id
    | on type => exact (Follows.nil _).cons trivial
    | fragment name on => exact .stop _ id
    | fragmentRef name => exact .stop _ id

/-- Writing a head below the root looks at its place alone. -/
theorem nestedHead_follows (operation : OperationType) (head : Head) :
    Follows operation [.nestedHead head] (nestedHead head) := by
  cases head with
  | type type => exact .stop _ id
  | field field =>
    rw [nestedHead, objectFieldName]
    -- A bare field is legal just if it refers to an object; nothing else has items.
    cases htarget : field.target with
    | object name => exact (Follows.nil _).cons ⟨name, htarget⟩
    | _ =>
      refine .stop (.nestedHead (.field field)) ?_
      rintro ⟨name, h⟩
      rw [htarget] at h
      cases h
  | name name => exact .stop _ id
  | operation inner =>
    cases inner with
    | argument target arguments =>
      cases target with
      | type type => exact (rootName_follows _ Iff.rfl rfl).map
      | field field => exact (Follows.nil _).cons trivial
    | on type => exact (Follows.nil _).cons trivial
    | fragment name on => exact .stop _ id
    | fragmentRef name => exact .stop _ id

mutual

/-- Writing an item goes through its places. -/
theorem itemText_follows (operation : OperationType) : ∀ item : Item,
    Follows operation (itemPlaces item) (itemText item)
  | .field field => .nil _
  | .name name => .nil _
  | .selection selection => by
    rw [itemPlaces, itemText]
    exact nestedText_follows operation selection
  | .operation (.fragmentRef name) => (Follows.nil _).cons rfl
  | .operation (.argument target arguments) => .stop (.item (.argument target arguments)) nofun
  | .operation (.on type) => .stop (.item (.on type)) nofun
  | .operation (.fragment name on) => .stop (.item (.fragment name on)) nofun

/-- Writing a selection goes through its head, its list and then its items. -/
theorem nestedText_follows (operation : OperationType) : ∀ selection : Selection,
    Follows operation (nestedPlaces selection) (nestedText selection)
  | ⟨head, items⟩ => by
    rw [nestedPlaces, nestedText]
    exact (nestedHead_follows operation head).bind fun _ => (itemsText_follows operation items).map

/-- Writing a list of items asks for an item first. -/
theorem itemsText_follows (operation : OperationType) : ∀ items : List Item,
    Follows operation (.list items :: itemsPlaces items) (itemsText items)
  | [] => .stop (.list []) fun h => h rfl
  | item :: rest => by
    rw [itemsText, itemsPlaces]
    refine Follows.cons (List.cons_ne_nil item rest) ?_
    exact (itemText_follows operation item).bind fun _ => (moreItems_follows operation rest).map

/-- Writing the items behind the first goes through their places. -/
theorem moreItems_follows (operation : OperationType) : ∀ items : List Item,
    Follows operation (itemsPlaces items) (moreItems items)
  | [] => .nil _
  | item :: rest => by
    rw [moreItems, itemsPlaces]
    exact (itemText_follows operation item).bind fun _ => (moreItems_follows operation rest).map

end

/-- Writing a root selection goes through its places. -/
theorem rootText_follows (operation : OperationType) (selection : Selection) :
    Follows operation (rootPlaces selection) (rootText operation selection) :=
  (rootHead_follows operation selection.head).bind fun _ =>
    (itemsText_follows operation selection.items).map

/-- Writing a fragment goes through its key, its list and then its items. -/
theorem fragmentText_follows (operation : OperationType) (fragment : Fragment) :
    Follows operation (fragmentPlaces fragment) (fragmentText fragment) := by
  obtain ⟨key, items⟩ := fragment
  cases key with
  | fragment name on => exact Follows.cons rfl (itemsText_follows operation items).map
  | argument target arguments => exact .stop (.key (.argument target arguments)) nofun
  | on type => exact .stop (.key (.on type)) nofun
  | fragmentRef name => exact .stop (.key (.fragmentRef name)) nofun

/-- Writing many parts goes through the places of one after the other. -/
theorem allTexts_follows {text : α → Except QueryError String} {partPlaces : α → List Place}
    (each : ∀ part, Follows operation (partPlaces part) (text part)) (parts : List α) :
    Follows operation (parts.flatMap partPlaces) (allTexts text parts) := by
  induction parts with
  | nil => exact .nil _
  | cons part rest ih =>
    rw [List.flatMap_cons, allTexts]
    exact (each part).bind fun _ => ih.map

/-- Writing a document goes through all places of its tree, depth first and from left to right. -/
theorem document_follows (operation : OperationType) (selections : List Selection)
    (fragments : List Fragment) :
    Follows operation (places selections fragments) (document operation selections fragments) := by
  rw [places, document]
  split
  · rename_i hempty
    exact .stop (.roots selections) fun h => h (List.isEmpty_iff.mp hempty)
  · rename_i hsome
    refine Follows.cons (fun h => hsome (List.isEmpty_iff.mpr h)) ?_
    exact (allTexts_follows (rootText_follows operation) selections).bind fun _ =>
      (allTexts_follows (fragmentText_follows operation) fragments).map

/-- A tree has a text exactly when every place of it is legal. It is refused with an error exactly
when this is the error of the first place that is not. -/
theorem document_eq_iff (operation : OperationType) (selections : List Selection)
    (fragments : List Fragment) :
    ((∃ text, document operation selections fragments = .ok text) ↔
      ∀ place ∈ places selections fragments, place.Legal operation) ∧
    ∀ error, document operation selections fragments = .error error ↔
      ∃ before place after, places selections fragments = before ++ place :: after ∧
        (∀ earlier ∈ before, earlier.Legal operation) ∧ ¬ place.Legal operation ∧
        error = place.error operation :=
  have follows := document_follows operation selections fragments
  ⟨follows.exists_eq_ok_iff, fun _ => follows.eq_error_iff⟩

/-- A head is looked at before its items, and root selections before fragments. -/
example : document .query [⟨.name "books", []⟩] [⟨.fragmentRef "authors", []⟩] =
    .error (.invalid (.nameAtRoot "books")) := rfl

end TypedQuery.Query
