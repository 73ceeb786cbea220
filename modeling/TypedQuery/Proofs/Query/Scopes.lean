import TypedQuery.Proofs.Query.Legality
import TypedQuery.Proofs.Schema.Reachable
import TypedQuery.Query.Resolve

/-!
# What the names of a selection document stand for

Each list of items in a selection document has a scope. The scope is given by the way down to the
list: the named type below `type` and `on` and in a fragment, and below a field the type that the
field refers to, if this is declared. `NodeStandsFor` and `ItemStandsFor` say along this way which
selection a node stands for and which item a name does, so that a tree has one selection for each
node and one item for each name, in order. Resolving finds this tree, and fails if there is none
(`resolve_eq_ok_iff`).

The places of such a tree hold heads and operations of few forms (`Place.Resolved`). An operation is
never where it must not be, although a tree may still have no text for other reasons.
-/

namespace TypedQuery

open Checked Query

/-! ## Along the way down -/

/-- A type or a field as a head without arguments. -/
def ArgumentTarget.head : ArgumentTarget → Head
  | .type object => .type object
  | .field declared => .field declared

/-- The head for a type or a field with arguments, which are an operation if there are any. -/
inductive Headed (target : ArgumentTarget) : List (String × String) → Head → Prop
  | bare : Headed target [] target.head
  | arguments {arguments : List (String × String)} (nonempty : arguments ≠ []) :
      Headed target arguments (.operation (.argument target arguments))

namespace Registry

/-- The scope below a field: the type that it refers to, if there is one and it is declared. -/
inductive ScopeBelow (registry : Registry) (field : Field) : Option ObjectType → Prop
  | declared {name : String} {type : ObjectType} (target : field.target = .object name)
      (found : registry.type? name = some type) : ScopeBelow registry field (some type)
  | undeclared {name : String} (target : field.target = .object name)
      (missing : registry.type? name = none) : ScopeBelow registry field none
  | unreferenced (noTarget : ∀ name, field.target ≠ .object name) : ScopeBelow registry field none

/-- The head that a node in a scope names by `type`, `field` and `on`, and the scope below it. Just
one of the three is there, a field is one of the scope, and only `on` has no arguments. -/
inductive HeadStandsFor (registry : Registry) (scope : Option ObjectType) :
    (typeName field on : Option String) → List (String × String) → Head → Option ObjectType → Prop
  | type {name : String} {type : ObjectType} {arguments : List (String × String)} {head : Head}
      (found : registry.type? name = some type) (headed : Headed (.type type) arguments head) :
      HeadStandsFor registry scope (some name) none none arguments head (some type)
  | field {owner : ObjectType} {name : String} {field : Field}
      {arguments : List (String × String)} {head : Head} {inner : Option ObjectType}
      (known : scope = some owner) (declared : owner.field? name = some field)
      (headed : Headed (.field field) arguments head) (below : registry.ScopeBelow field inner) :
      HeadStandsFor registry scope none (some name) none arguments head inner
  | on {name : String} {type : ObjectType} (found : registry.type? name = some type) :
      HeadStandsFor registry scope none none (some name) [] (.operation (.on type)) (some type)

mutual

/-- The selection that a node in a scope stands for. -/
inductive NodeStandsFor (registry : Registry) : Option ObjectType → OutlineNode → Selection → Prop
  | node {scope inner : Option ObjectType} {typeName field on : Option String}
      {arguments : List (String × String)} {head : Head} {items : List OutlineItem}
      {resolved : List Item}
      (names : registry.HeadStandsFor scope typeName field on arguments head inner)
      (below : ItemsStandFor registry inner items resolved) :
      NodeStandsFor registry scope ⟨typeName, field, on, arguments, items⟩ ⟨head, resolved⟩

/-- The items that a list in a scope stands for, one for each. -/
inductive ItemsStandFor (registry : Registry) :
    Option ObjectType → List OutlineItem → List Item → Prop
  | nil {scope : Option ObjectType} : ItemsStandFor registry scope [] []
  | cons {scope : Option ObjectType} {item : OutlineItem} {resolved : Item}
      {rest : List OutlineItem} {others : List Item}
      (first : ItemStandsFor registry scope item resolved)
      (more : ItemsStandFor registry scope rest others) :
      ItemsStandFor registry scope (item :: rest) (resolved :: others)

/-- The item that an item in a scope stands for. A name stands for itself if the scope is not known
or does not declare it. -/
inductive ItemStandsFor (registry : Registry) : Option ObjectType → OutlineItem → Item → Prop
  | field {scope : Option ObjectType} {owner : ObjectType} {name : String} {field : Field}
      (known : scope = some owner) (declared : owner.field? name = some field) :
      ItemStandsFor registry scope (.name name) (.field field)
  | verbatim {scope : Option ObjectType} {name : String}
      (undeclared : ∀ owner, scope = some owner → owner.field? name = none) :
      ItemStandsFor registry scope (.name name) (.name name)
  | node {scope : Option ObjectType} {node : OutlineNode} {selection : Selection}
      (stands : NodeStandsFor registry scope node selection) :
      ItemStandsFor registry scope (.node node) (.selection selection)
  | fragmentRef {scope : Option ObjectType} {name : String} :
      ItemStandsFor registry scope (.fragmentRef name) (.operation (.fragmentRef name))

end

/-- The definition that a fragment stands for. -/
inductive FragmentStandsFor (registry : Registry) : OutlineFragment → Fragment → Prop
  | fragment {name on : String} {type : ObjectType} {items : List OutlineItem}
      {resolved : List Item} (found : registry.type? on = some type)
      (below : registry.ItemsStandFor (some type) items resolved) :
      FragmentStandsFor registry ⟨name, on, items⟩ ⟨.fragment name type, resolved⟩

/-! ## Resolving -/

variable {registry : Registry} {scope inner : Option ObjectType} {field : Field}
variable {typeName name on : Option String} {arguments : List (String × String)} {head : Head}

/-- A type is resolved by its name, to the declared type of this name. -/
theorem resolveType_eq_ok_iff {name : String} {type : ObjectType} :
    registry.resolveType name = .ok type ↔ registry.type? name = some type := by
  rw [resolveType]
  cases registry.type? name <;> simp

/-- Arguments make an operation of a head just if there are any. -/
theorem headed_iff {target : ArgumentTarget} :
    (if arguments.isEmpty then target.head else .operation (.argument target arguments)) = head ↔
      Headed target arguments head := by
  constructor
  · rintro rfl
    cases arguments with
    | nil => exact .bare
    | cons first rest => exact .arguments (List.cons_ne_nil first rest)
  · intro headed
    cases headed with
    | bare => rfl
    | arguments nonempty => exact if_neg fun h => nonempty (List.isEmpty_iff.mp h)

/-- The scope that is looked up for a field is the one below it. -/
theorem scopeBelow_iff :
    field.referencedType?.bind registry.type? = inner ↔ registry.ScopeBelow field inner := by
  rw [FieldTraits.referencedType?]
  constructor
  · rintro rfl
    -- Only an object has a name that can be looked up; every other target leaves the scope unknown.
    cases htarget : field.target with
    | object name =>
      rw [Option.bind_some]
      cases hfound : registry.type? name with
      | some type => exact .declared htarget hfound
      | none => exact .undeclared htarget hfound
    | _ => exact .unreferenced fun name h => by simp [htarget] at h
  · intro below
    cases below with
    | declared target found => rw [target]; exact found
    | undeclared target missing => rw [target]; exact missing
    | unreferenced noTarget =>
      cases htarget : field.target with
      | object name => exact absurd htarget (noTarget name)
      | _ => rfl

/-- A head and the scope below it are resolved just to what the node names. -/
theorem resolveHead_eq_ok_iff :
    registry.resolveHead scope typeName name on arguments = .ok (head, inner) ↔
      registry.HeadStandsFor scope typeName name on arguments head inner := by
  constructor
  · intro h
    -- The cases are those in which just one of the three names is there, and at last all the
    -- others, which fail.
    rw [resolveHead.eq_def] at h
    split at h
    · -- A type.
      simp only [bind_eq_ok, resolveType_eq_ok_iff, pure_eq_ok, Prod.mk.injEq] at h
      obtain ⟨type, found, hhead, rfl⟩ := h
      exact .type found (headed_iff.mp hhead)
    · -- A field of the scope.
      split at h
      · cases h
      · split at h
        · cases h
        · rename_i declared
          simp only [Except.ok.injEq, Prod.mk.injEq] at h
          obtain ⟨hhead, hinner⟩ := h
          exact .field rfl declared (headed_iff.mp hhead) (scopeBelow_iff.mp hinner)
    · -- An inline fragment.
      split at h
      · rename_i noArguments
        obtain rfl := List.isEmpty_iff.mp noArguments
        simp only [bind_eq_ok, resolveType_eq_ok_iff, pure_eq_ok, Prod.mk.injEq] at h
        obtain ⟨type, found, rfl, rfl⟩ := h
        exact .on found
      · cases h
    · cases h
  · intro names
    cases names with
    | type found headed =>
      simp only [resolveHead, bind_eq_ok, resolveType_eq_ok_iff, pure_eq_ok, Prod.mk.injEq]
      exact ⟨_, found, headed_iff.mpr headed, rfl⟩
    | field known declared headed below =>
      simp only [resolveHead, known, declared, Except.ok.injEq, Prod.mk.injEq]
      exact ⟨headed_iff.mpr headed, scopeBelow_iff.mpr below⟩
    | on found =>
      simp only [resolveHead, List.isEmpty_nil, reduceIte, bind_eq_ok, resolveType_eq_ok_iff,
        pure_eq_ok, Prod.mk.injEq]
      exact ⟨_, found, rfl, rfl⟩

/-- A name is resolved to the item that it stands for. This never fails: a name that the scope does
not declare stands for itself. -/
theorem resolveName_eq_iff {name : String} {item : Item} :
    resolveName scope name = item ↔ registry.ItemStandsFor scope (.name name) item := by
  rw [resolveName]
  constructor
  · rintro rfl
    cases scope with
    | none => exact .verbatim nofun
    | some owner =>
      rw [Option.bind_some]
      cases hfield : owner.field? name with
      | some field => exact .field rfl hfield
      | none =>
        refine .verbatim ?_
        rintro _ ⟨⟩
        exact hfield
  · intro stands
    cases stands with
    | field known declared => simp only [known, Option.bind_some, declared]
    | verbatim undeclared =>
      cases scope with
      | none => rfl
      | some owner => simp only [Option.bind_some, undeclared owner rfl]

mutual

/-- A node is resolved just to the selection that it stands for. -/
theorem resolveNode_eq_ok_iff {scope : Option ObjectType} : ∀ {node : OutlineNode}
    {selection : Selection},
    registry.resolveNode scope node = .ok selection ↔ registry.NodeStandsFor scope node selection
  | ⟨typeName, name, on, arguments, items⟩, selection => by
    simp only [resolveNode, bind_eq_ok, pure_eq_ok]
    constructor
    · rintro ⟨⟨head, inner⟩, hhead, resolved, hitems, rfl⟩
      exact .node (resolveHead_eq_ok_iff.mp hhead) (resolveItems_eq_ok_iff.mp hitems)
    · rintro (⟨names, below⟩)
      exact ⟨_, resolveHead_eq_ok_iff.mpr names, _, resolveItems_eq_ok_iff.mpr below, rfl⟩

/-- A list of items is resolved just to the items that it stands for. -/
theorem resolveItems_eq_ok_iff {scope : Option ObjectType} : ∀ {items : List OutlineItem}
    {resolved : List Item},
    registry.resolveItems scope items = .ok resolved ↔ registry.ItemsStandFor scope items resolved
  | [], resolved => by
    rw [resolveItems, Except.ok.injEq]
    constructor
    · rintro rfl
      exact .nil
    · rintro ⟨⟩
      rfl
  | item :: rest, resolved => by
    simp only [resolveItems, bind_eq_ok, pure_eq_ok]
    constructor
    · rintro ⟨first, hfirst, others, hothers, rfl⟩
      exact .cons (resolveItem_eq_ok_iff.mp hfirst) (resolveItems_eq_ok_iff.mp hothers)
    · rintro (_ | ⟨first, more⟩)
      exact ⟨_, resolveItem_eq_ok_iff.mpr first, _, resolveItems_eq_ok_iff.mpr more, rfl⟩

/-- An item is resolved just to the item that it stands for. -/
theorem resolveItem_eq_ok_iff {scope : Option ObjectType} : ∀ {item : OutlineItem}
    {resolved : Item},
    registry.resolveItem scope item = .ok resolved ↔ registry.ItemStandsFor scope item resolved
  | .name name, resolved => by
    rw [resolveItem, Except.ok.injEq]
    exact resolveName_eq_iff
  | .node node, resolved => by
    rw [resolveItem, map_eq_ok]
    constructor
    · rintro ⟨selection, hnode, rfl⟩
      exact .node (resolveNode_eq_ok_iff.mp hnode)
    · rintro (_ | _ | stands)
      exact ⟨_, resolveNode_eq_ok_iff.mpr stands, rfl⟩
  | .fragmentRef name, resolved => by
    rw [resolveItem, Except.ok.injEq]
    constructor
    · rintro rfl
      exact .fragmentRef
    · rintro ⟨⟩
      rfl

end

/-- A fragment is resolved just to the definition that it stands for, below the type it is on. -/
theorem resolveFragment_eq_ok_iff {outline : OutlineFragment} {fragment : Fragment} :
    registry.resolveFragment outline = .ok fragment ↔
      registry.FragmentStandsFor outline fragment := by
  simp only [resolveFragment, bind_eq_ok, resolveType_eq_ok_iff, pure_eq_ok]
  constructor
  · rintro ⟨type, found, resolved, hitems, rfl⟩
    exact .fragment found (resolveItems_eq_ok_iff.mp hitems)
  · rintro ⟨found, below⟩
    exact ⟨_, found, _, resolveItems_eq_ok_iff.mpr below, rfl⟩

/-- A document is resolved node by node without a scope, and fragment by fragment. -/
theorem resolve_eq_ok_iff {document : SelectionDocument} {selections : List Selection}
    {fragments : List Fragment} :
    registry.resolve document = .ok (selections, fragments) ↔
      List.Forall₂ (registry.NodeStandsFor none) document.selections selections ∧
        List.Forall₂ registry.FragmentStandsFor document.fragments fragments := by
  simp only [resolve, bind_eq_ok, mapM_eq_ok_iff, pure_eq_ok, Prod.mk.injEq,
    resolveNode_eq_ok_iff, resolveFragment_eq_ok_iff]
  constructor
  · rintro ⟨_, hselections, _, hfragments, rfl, rfl⟩
    exact ⟨hselections, hfragments⟩
  · rintro ⟨hselections, hfragments⟩
    exact ⟨_, hselections, _, hfragments, rfl, rfl⟩

end Registry

/-! ## Places of resolved trees -/

namespace Query

/-- Whether a head is a type, a field, one of these with arguments, or an inline fragment. -/
inductive ResolvedHead : Head → Prop
  | target (target : ArgumentTarget) : ResolvedHead target.head
  | argument {target : ArgumentTarget} {arguments : List (String × String)}
      (nonempty : arguments ≠ []) : ResolvedHead (.operation (.argument target arguments))
  | on (type : ObjectType) : ResolvedHead (.operation (.on type))

/-- What a name in a selection document can come to at a place. -/
def Place.Resolved : Place → Prop
  | .rootHead head | .nestedHead head => ResolvedHead head
  | .roots _ | .list _ => True
  | .item inner => inner.kind = .fragmentRef
  | .key inner => inner.kind = .fragment

/-- The arguments that are given at a place. -/
def Place.arguments? : Place → Option (List (String × String))
  | .rootHead (.operation (.argument _ arguments))
  | .nestedHead (.operation (.argument _ arguments))
  | .item (.argument _ arguments)
  | .key (.argument _ arguments) => some arguments
  | _ => none

/-- A resolved head has no empty list of arguments, wherever it stands. -/
theorem ResolvedHead.arguments?_ne {head : Head} (resolved : ResolvedHead head) :
    (Place.rootHead head).arguments? ≠ some [] ∧ (Place.nestedHead head).arguments? ≠ some [] := by
  cases resolved with
  | target target => cases target <;> exact ⟨nofun, nofun⟩
  | argument nonempty =>
    exact ⟨fun h => nonempty (Option.some.inj h), fun h => nonempty (Option.some.inj h)⟩
  | on type => exact ⟨nofun, nofun⟩

/-- A place of a resolved tree has no empty list of arguments. -/
theorem Place.Resolved.arguments?_ne {place : Place} (resolved : place.Resolved) :
    place.arguments? ≠ some [] := by
  cases place with
  | rootHead head => exact (ResolvedHead.arguments?_ne resolved).1
  | nestedHead head => exact (ResolvedHead.arguments?_ne resolved).2
  | roots selections => exact nofun
  | list items => exact nofun
  | item inner =>
    cases inner with
    | argument => cases resolved
    | _ => exact nofun
  | key inner =>
    cases inner with
    | argument => cases resolved
    | _ => exact nofun

/-- A place of a resolved tree is legal, or it is not a matter of operations. -/
theorem Place.Resolved.error_ne {place : Place} (resolved : place.Resolved)
    {operation : OperationType} (illegal : ¬ place.Legal operation) (kind : OperationKind)
    (allowed : List OperationKind) : place.error operation ≠ .illegalOperation kind allowed := by
  cases place with
  | rootHead head =>
    cases resolved with
    -- A field is not valid here, and a type is if it has a root name.
    | target target => cases target <;> exact nofun
    | @argument target _ _ => cases target <;> exact nofun
    | on type => exact absurd trivial illegal
  | nestedHead head =>
    cases resolved with
    | target target => cases target <;> exact nofun
    -- Below the root arguments of a type need a query root, and those of a field are legal.
    | @argument target _ _ =>
      cases target with
      | type type => exact nofun
      | field field => exact absurd trivial illegal
    | on type => exact absurd trivial illegal
  | roots selections => exact nofun
  | list items => exact nofun
  | item inner => exact absurd resolved illegal
  | key inner => exact absurd resolved illegal

end Query

/-- A head for a type or a field is resolved, with and without arguments. -/
theorem Headed.resolved {target : ArgumentTarget} {arguments : List (String × String)} {head : Head}
    (headed : Headed target arguments head) : ResolvedHead head := by
  cases headed with
  | bare => exact .target target
  | arguments nonempty => exact .argument nonempty

namespace Registry

variable {registry : Registry}

/-- What a node names as its head is a resolved head. -/
theorem HeadStandsFor.resolved {scope inner : Option ObjectType}
    {typeName name on : Option String} {arguments : List (String × String)} {head : Head}
    (names : registry.HeadStandsFor scope typeName name on arguments head inner) :
    ResolvedHead head := by
  cases names with
  | type _ headed => exact headed.resolved
  | field _ _ headed _ => exact headed.resolved
  | on _ => exact .on _

mutual

/-- All places of a selection below the root are resolved if a node stands for it. -/
theorem NodeStandsFor.resolved {scope : Option ObjectType} {node : OutlineNode}
    {selection : Selection} :
    registry.NodeStandsFor scope node selection → ∀ place ∈ nestedPlaces selection, place.Resolved
  | .node names below => by
    rw [nestedPlaces, List.forall_mem_cons, List.forall_mem_cons]
    exact ⟨names.resolved, trivial, below.resolved⟩

/-- All places of items that a list stands for are resolved. -/
theorem ItemsStandFor.resolved {scope : Option ObjectType} {items : List OutlineItem}
    {resolved : List Item} :
    registry.ItemsStandFor scope items resolved → ∀ place ∈ itemsPlaces resolved, place.Resolved
  | .nil => by
    rw [itemsPlaces]
    exact List.forall_mem_nil _
  | .cons first more => by
    rw [itemsPlaces, List.forall_mem_append]
    exact ⟨first.resolved, more.resolved⟩

/-- All places of an item that stands for another are resolved; a field and a name have none. -/
theorem ItemStandsFor.resolved {scope : Option ObjectType} {item : OutlineItem}
    {resolved : Item} :
    registry.ItemStandsFor scope item resolved → ∀ place ∈ itemPlaces resolved, place.Resolved
  | .field _ _ => by
    rw [itemPlaces]
    exact List.forall_mem_nil _
  | .verbatim _ => by
    rw [itemPlaces]
    exact List.forall_mem_nil _
  | .node stands => by
    rw [itemPlaces]
    exact stands.resolved
  | .fragmentRef => by
    rw [itemPlaces, List.forall_mem_singleton]
    rfl

end

/-- All places of a selection at the root are resolved if a node stands for it. -/
theorem NodeStandsFor.resolved_root {scope : Option ObjectType} {node : OutlineNode}
    {selection : Selection} (stands : registry.NodeStandsFor scope node selection) :
    ∀ place ∈ rootPlaces selection, place.Resolved := by
  cases stands with
  | node names below =>
    rw [rootPlaces, List.forall_mem_cons, List.forall_mem_cons]
    exact ⟨names.resolved, trivial, below.resolved⟩

/-- All places of a fragment definition are resolved if a fragment stands for it. -/
theorem FragmentStandsFor.resolved {outline : OutlineFragment} {fragment : Fragment}
    (stands : registry.FragmentStandsFor outline fragment) :
    ∀ place ∈ fragmentPlaces fragment, place.Resolved := by
  cases stands with
  | fragment found below =>
    rw [fragmentPlaces, List.forall_mem_cons, List.forall_mem_cons]
    exact ⟨rfl, trivial, below.resolved⟩

/-- Every place of a resolved tree is resolved. -/
theorem resolved_of_standsFor {nodes : List OutlineNode} {selections : List Selection}
    {outlines : List OutlineFragment} {fragments : List Fragment}
    (hselections : List.Forall₂ (registry.NodeStandsFor none) nodes selections)
    (hfragments : List.Forall₂ registry.FragmentStandsFor outlines fragments) :
    ∀ place ∈ places selections fragments, place.Resolved := by
  rw [places, List.forall_mem_cons, List.forall_mem_append]
  refine ⟨trivial, ?_, ?_⟩
  · intro place mem
    -- A place belongs to one selection, and this selection to the node that stands for it.
    obtain ⟨selection, hselection, mem⟩ := List.mem_flatMap.mp mem
    obtain ⟨node, -, stands⟩ := exists_left_of_mem hselections hselection
    exact stands.resolved_root place mem
  · intro place mem
    obtain ⟨fragment, hfragment, mem⟩ := List.mem_flatMap.mp mem
    obtain ⟨outline, -, stands⟩ := exists_left_of_mem hfragments hfragment
    exact stands.resolved place mem

/-- A document resolves to the tree that its nodes and fragments stand for along the way down, and
to no other. A resolved tree has arguments where the document has some, and no empty list of them,
and neither kind of document refuses it for an operation. -/
theorem resolve_along_scopes (registry : Registry) (document : SelectionDocument)
    (selections : List Selection) (fragments : List Fragment) :
    (registry.resolve document = .ok (selections, fragments) ↔
      List.Forall₂ (registry.NodeStandsFor none) document.selections selections ∧
        List.Forall₂ registry.FragmentStandsFor document.fragments fragments) ∧
    (registry.resolve document = .ok (selections, fragments) →
      (∀ place ∈ places selections fragments, place.arguments? ≠ some []) ∧
      ∀ operation kind allowed, Query.document operation selections fragments ≠
        .error (.illegalOperation kind allowed)) := by
  refine ⟨resolve_eq_ok_iff, fun resolved => ?_⟩
  obtain ⟨hselections, hfragments⟩ := resolve_eq_ok_iff.mp resolved
  have hplaces := resolved_of_standsFor hselections hfragments
  refine ⟨fun place mem => (hplaces place mem).arguments?_ne,
    fun operation kind allowed refused => ?_⟩
  -- It would be refused for its first place that is not legal.
  obtain ⟨before, place, after, heq, -, illegal, herror⟩ :=
    (document_follows operation selections fragments).eq_error_iff.mp refused
  have mem : place ∈ places selections fragments := by
    rw [heq]
    exact List.mem_append_right _ List.mem_cons_self
  exact (hplaces place mem).error_ne illegal kind allowed herror.symm

/-- A shelf with its books, of which atlases say more, and with its floor. Nothing is in scope below
the floor, until a type is named again. -/
def floorOutline : SelectionDocument where
  selections := [
    ⟨some "shelf", none, none, [("id", "1")], [.name "first", .name "width",
      .node ⟨none, some "books", none, [], [.name "scale",
        .node ⟨none, none, some "atlas", [], [.name "scale"]⟩]⟩,
      .node ⟨none, some "floor", none, [("unit", "m")], [.name "first",
        .node ⟨none, none, some "shelf", [], [.name "first", .fragmentRef "label"]⟩]⟩]⟩]
  fragments := [⟨"label", "shelf", [.name "label"]⟩]

/-- What the shelf stands for: `first` is a field on both sides of the floor and a mere name between
them, and only atlases have a scale. -/
def floorSelection : Selection :=
  ⟨.operation (.argument (.type (libraryType "shelf")) [("id", "1")]), [
    .field (libraryField "shelf" "first"), .name "width",
    .selection ⟨.field (libraryField "shelf" "books"), [.name "scale",
      .selection ⟨.operation (.on (libraryType "atlas")),
        [.field (libraryField "atlas" "scale")]⟩]⟩,
    .selection ⟨.operation (.argument (.field (libraryField "shelf" "floor")) [("unit", "m")]), [
      .name "first",
      .selection ⟨.operation (.on (libraryType "shelf")), [.field (libraryField "shelf" "first"),
        .operation (.fragmentRef "label")]⟩]⟩]⟩

/-- The shelf resolves to the tree above, in which no argument list is empty and which neither kind
of document refuses for an operation. -/
theorem floorOutline_along_scopes :
    ∃ fragment, library.resolve floorOutline = .ok ([floorSelection], [fragment]) ∧
      List.Forall₂ (library.NodeStandsFor none) floorOutline.selections [floorSelection] ∧
      (∀ place ∈ places [floorSelection] [fragment], place.arguments? ≠ some []) ∧
      ∀ operation kind allowed, Query.document operation [floorSelection] [fragment] ≠
        .error (.illegalOperation kind allowed) := by
  have hresolve : library.resolve floorOutline = .ok ([floorSelection], [_]) := rfl
  obtain ⟨resolves, formed⟩ := resolve_along_scopes library floorOutline _ _
  exact ⟨_, hresolve, (resolves.mp hresolve).1, formed hresolve⟩

end Registry

end TypedQuery
