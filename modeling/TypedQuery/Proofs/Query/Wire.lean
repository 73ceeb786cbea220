import TypedQuery.Proofs.Checked
import TypedQuery.Query.Text

/-!
# Selections by their names on the wire

The text of a document depends on a selection tree only through what each part of it names on the
wire. `wireDocument` erases a tree to these names, or says what is not legal in it, and
`document_eq` takes the text apart: erase the tree first, then write it. The writing of an erased
tree never fails.
-/

namespace TypedQuery.Query

open Checked

/-- A head by what it names on the wire. -/
inductive WireHead where
  /-- A root name or the wire name of a field. -/
  | name (name : String)
  | call (name : String) (arguments : List (String × String))
  /-- An inline fragment, by the typename of its type. -/
  | on (typename : String)

mutual

/-- An item by what it names on the wire. -/
inductive WireItem where
  | name (name : String)
  | spread (fragment : String)
  | selection (selection : WireSelection)

/-- A selection by what it names on the wire. -/
structure WireSelection where
  head : WireHead
  items : List WireItem

end

/-- A fragment definition by what it names on the wire. -/
structure WireFragment where
  name : String
  typename : String
  items : List WireItem

/-- A document by what it names on the wire. -/
structure WireDocument where
  operation : OperationType
  selections : List WireSelection
  fragments : List WireFragment

/-- The key of a reply under which the answer to a head stands. -/
def WireHead.key? : WireHead → Option String
  | .name key | .call key _ => some key
  | .on _ => none

/-- The key of a reply under which the answer to an item stands. -/
def WireItem.key? : WireItem → Option String
  | .name key => some key
  | .spread _ => none
  | .selection inner => inner.head.key?

/-! ## Writing -/

/-- The text of a head. -/
def WireHead.text : WireHead → String
  | .name key => key
  | .call key arguments => key ++ argumentsText arguments
  | .on typename => "... on " ++ typename

mutual

/-- The text of an item. -/
def WireItem.text : WireItem → String
  | .name key => key
  | .spread fragment => "..." ++ fragment
  | .selection inner => inner.text

/-- The text of a selection. -/
def WireSelection.text : WireSelection → String
  | ⟨head, items⟩ => head.text ++ braced (wireTexts items)

/-- Items between commas. -/
def wireTexts : List WireItem → String
  | [] => ""
  | item :: rest => item.text ++ moreWireTexts rest

/-- The items after the first, each after a comma. -/
def moreWireTexts : List WireItem → String
  | [] => ""
  | item :: rest => "," ++ item.text ++ moreWireTexts rest

end

/-- The text of a fragment definition. -/
def WireFragment.text (fragment : WireFragment) : String :=
  "fragment " ++ fragment.name ++ " on " ++ fragment.typename ++ braced (wireTexts fragment.items)

/-- The texts of a list of parts, one after the other. -/
def joined {α : Type} (text : α → String) : List α → String
  | [] => ""
  | part :: rest => text part ++ joined text rest

/-- The text of a document. -/
def WireDocument.text (document : WireDocument) : String :=
  document.operation.keyword ++ "\x7b" ++ joined WireSelection.text document.selections ++ "\x7d" ++
    joined WireFragment.text document.fragments

/-! ## Erasing -/

/-- What a root head names on the wire. -/
def wireRootHead (operation : OperationType) : Head → Except QueryError WireHead
  | .type type => .name <$> rootName operation type
  | .field field => .error (.invalid (.fieldAtRoot field.label))
  | .name name => .error (.invalid (.nameAtRoot name))
  | .operation (.argument (.type type) arguments) =>
    (.call · arguments) <$> rootName operation type
  | .operation (.argument (.field field) _) => .error (.invalid (.fieldAtRoot field.label))
  | .operation (.on type) => .ok (.on type.typename)
  | .operation other => .error (illegalHead other)

/-- What a head below the root names on the wire. -/
def wireNestedHead : Head → Except QueryError WireHead
  | .field field => .name <$> objectFieldName field
  | .type type => .error (.invalid (.typeBelowRoot type.name))
  | .name name => .error (.invalid (.nameBelowRoot name))
  | .operation (.argument (.type type) arguments) => (.call · arguments) <$> rootName .query type
  | .operation (.argument (.field field) arguments) => .ok (.call field.wireQueryName arguments)
  | .operation (.on type) => .ok (.on type.typename)
  | .operation other => .error (illegalHead other)

mutual

/-- What an item names on the wire. -/
def wireItem : Item → Except QueryError WireItem
  | .field field => .ok (.name field.wireQueryName)
  | .name name => .ok (.name name)
  | .selection selection => .selection <$> wireNested selection
  | .operation (.fragmentRef name) => .ok (.spread name)
  | .operation other => .error (.illegalOperation other.kind [.fragmentRef])

/-- What a selection below the root names on the wire. -/
def wireNested : Selection → Except QueryError WireSelection
  | ⟨head, items⟩ => do
    let head ← wireNestedHead head
    return ⟨head, ← wireItems items⟩

/-- What a list of items names on the wire; there must be one. -/
def wireItems : List Item → Except QueryError (List WireItem)
  | [] => .error (.invalid .noItems)
  | item :: rest => do
    let first ← wireItem item
    return first :: (← moreWireItems rest)

/-- What the items after the first name on the wire. -/
def moreWireItems : List Item → Except QueryError (List WireItem)
  | [] => .ok []
  | item :: rest => do
    let first ← wireItem item
    return first :: (← moreWireItems rest)

end

/-- What a root selection names on the wire. -/
def wireRoot (operation : OperationType) (selection : Selection) :
    Except QueryError WireSelection := do
  let head ← wireRootHead operation selection.head
  return ⟨head, ← wireItems selection.items⟩

/-- What a fragment definition names on the wire. -/
def wireFragment (fragment : Fragment) : Except QueryError WireFragment :=
  match fragment.key with
  | .fragment name on => do return ⟨name, on.typename, ← wireItems fragment.items⟩
  | other => .error (.illegalOperation other.kind [.fragment])

/-- What a document names on the wire. -/
def wireDocument (operation : OperationType) (selections : List Selection)
    (fragments : List Fragment) : Except QueryError WireDocument :=
  if selections.isEmpty then .error (.invalid .noSelections)
  else do
    let selections ← selections.mapM (wireRoot operation)
    let fragments ← fragments.mapM wireFragment
    return ⟨operation, selections, fragments⟩

/-- The items behind the first are erased one by one, up to the first that cannot be. -/
theorem moreWireItems_eq_mapM (items : List Item) : moreWireItems items = items.mapM wireItem := by
  induction items with
  | nil => rfl
  | cons item rest ih => rw [moreWireItems, List.mapM_cons, ih]

/-- Items are erased one by one, if there is one. -/
theorem wireItems_eq_ok_iff {items : List Item} {wires : List WireItem} :
    wireItems items = .ok wires ↔
      items ≠ [] ∧ List.Forall₂ (fun item wire => wireItem item = .ok wire) items wires := by
  cases items with
  | nil => simp [wireItems]
  | cons item rest =>
    have hmapM : wireItems (item :: rest) = (item :: rest).mapM wireItem := by
      rw [wireItems, List.mapM_cons, moreWireItems_eq_mapM]
    rw [hmapM, mapM_eq_ok_iff, and_iff_right (List.cons_ne_nil _ _)]

/-- The root name of a type is the one that the type has for the operation. -/
theorem rootName_eq_ok_iff {operation : OperationType} {type : ObjectType} {root : String} :
    rootName operation type = .ok root ↔ operation.root? type = some root := by
  rw [rootName]
  cases operation.root? type <;> simp

/-- Only a field with an object behind it can be a head, by its wire name in queries. -/
theorem objectFieldName_eq_ok_iff {field : Field} {key : String} :
    objectFieldName field = .ok key ↔
      (∃ name, field.target = .object name) ∧ field.wireQueryName = key := by
  rw [objectFieldName]
  cases field.target <;> simp

/-! ## The text of a tree is the text of its names -/

/-- A root head is written by what it names on the wire, with the same error if it names nothing. -/
theorem rootHead_eq (operation : OperationType) (head : Head) :
    rootHead operation head = WireHead.text <$> wireRootHead operation head := by
  cases head with
  | type type =>
    cases h : rootName operation type <;> simp [rootHead, wireRootHead, h, WireHead.text]
  -- Only what has to look up a root name can fail after the shape of the head is known.
  | operation head =>
    cases head with
    | argument target arguments =>
      cases target with
      | type type =>
        cases h : rootName operation type <;>
          simp [rootHead, wireRootHead, h, WireHead.text]
      | field field => rfl
    | _ => rfl
  | _ => rfl

/-- A head below the root is written by what it names on the wire, with the same error if it names
nothing. -/
theorem nestedHead_eq (head : Head) : nestedHead head = WireHead.text <$> wireNestedHead head := by
  cases head with
  | field field =>
    cases h : objectFieldName field <;> simp [nestedHead, wireNestedHead, h, WireHead.text]
  | operation head =>
    cases head with
    | argument target arguments =>
      cases target with
      | type type =>
        cases h : rootName .query type <;> simp [nestedHead, wireNestedHead, h, WireHead.text]
      | field field => rfl
    | _ => rfl
  | _ => rfl

mutual

/-- An item is written by what it names on the wire. -/
theorem itemText_eq : ∀ item : Item, itemText item = WireItem.text <$> wireItem item
  | .field field => by simp [itemText, wireItem, WireItem.text]
  | .name name => by simp [itemText, wireItem, WireItem.text]
  | .selection selection => by
    rw [itemText, wireItem, nestedText_eq selection]
    cases wireNested selection <;> simp [WireItem.text]
  | .operation operation => by
    cases operation <;> simp [itemText, wireItem, WireItem.text]

/-- A selection below the root is written by what it names on the wire. -/
theorem nestedText_eq : ∀ selection : Selection,
    nestedText selection = WireSelection.text <$> wireNested selection
  | ⟨head, items⟩ => by
    rw [nestedText, wireNested, nestedHead_eq, itemsText_eq items]
    -- The head comes first on both sides, so its error hides those of the items.
    cases wireNestedHead head with
    | error error => rfl
    | ok head => cases wireItems items <;> simp [WireSelection.text]

/-- A list of items is written by what its items name on the wire. -/
theorem itemsText_eq : ∀ items : List Item, itemsText items = wireTexts <$> wireItems items
  | [] => rfl
  | item :: rest => by
    rw [itemsText, wireItems, itemText_eq item, moreItems_eq rest]
    cases wireItem item with
    | error error => rfl
    | ok first => cases moreWireItems rest <;> simp [wireTexts]

/-- The items behind the first are written by what they name on the wire. -/
theorem moreItems_eq : ∀ items : List Item, moreItems items = moreWireTexts <$> moreWireItems items
  | [] => rfl
  | item :: rest => by
    rw [moreItems, moreWireItems, itemText_eq item, moreItems_eq rest]
    cases wireItem item with
    | error error => rfl
    | ok first => cases moreWireItems rest <;> simp [moreWireTexts]

end

/-- A root selection is written by what it names on the wire. -/
theorem rootText_eq (operation : OperationType) (selection : Selection) :
    rootText operation selection = WireSelection.text <$> wireRoot operation selection := by
  rw [rootText, wireRoot, rootHead_eq, itemsText_eq]
  cases wireRootHead operation selection.head with
  | error error => rfl
  | ok head => cases wireItems selection.items <;> simp [WireSelection.text]

/-- A fragment definition is written by what it names on the wire. -/
theorem fragmentText_eq (fragment : Fragment) :
    fragmentText fragment = WireFragment.text <$> wireFragment fragment := by
  obtain ⟨key, items⟩ := fragment
  cases key with
  | fragment name on =>
    rw [fragmentText, wireFragment, itemsText_eq]
    cases wireItems items <;> simp [WireFragment.text]
  | _ => rfl

/-- If each part is written by what it names on the wire, so is a row of parts, up to the first that
names nothing. -/
theorem allTexts_eq {α β : Type} {text : α → Except QueryError String}
    {wire : α → Except QueryError β} {write : β → String}
    (h : ∀ part, text part = write <$> wire part) (parts : List α) :
    allTexts text parts = joined write <$> parts.mapM wire := by
  induction parts with
  | nil => rfl
  | cons part rest ih =>
    rw [allTexts, List.mapM_cons, h, ih]
    cases wire part with
    | error error => rfl
    | ok first => cases rest.mapM wire <;> simp [joined]

/-- The text of a document is the text of what its tree names on the wire. -/
theorem document_eq (operation : OperationType) (selections : List Selection)
    (fragments : List Fragment) :
    document operation selections fragments =
      WireDocument.text <$> wireDocument operation selections fragments := by
  rw [document, wireDocument]
  split
  · rfl
  -- Both sides take all selections before the first fragment, so they stop at the same part.
  · rw [allTexts_eq (rootText_eq operation), allTexts_eq fragmentText_eq]
    cases selections.mapM (wireRoot operation) with
    | error error => rfl
    | ok roots => cases fragments.mapM wireFragment <;> simp [WireDocument.text]

end TypedQuery.Query
