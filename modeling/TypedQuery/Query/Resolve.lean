import TypedQuery.Query.Outline
import TypedQuery.Schema.Registry

/-!
# Names of a selection document

The names of a selection document are resolved along the way down. Each list of items has a *scope*,
the type whose fields it names: the type that the node names, or the type that its field refers to.
A field that refers to no type, or to one that is not declared, leaves no scope below it.

A plain name stands for the field of the scope that it names, and for itself where there is none.
-/

namespace TypedQuery

/-- Why the names of a selection document do not resolve. -/
inductive ResolveError where
  /-- A field where no type is in scope. -/
  | noScope (field : String)
  | noField (type field : String)
  | argumentsOnFragment (on : String)
  /-- A node that names no head, or more than one. -/
  | ambiguousHead
  | unknownType (name : String)
deriving DecidableEq, Repr

/-- The wording of a resolution error. -/
def ResolveError.message : ResolveError → String
  | noScope field => "Field '" ++ field ++ "' needs an enclosing type, use `type` at the root"
  | noField type field => "Type '" ++ type ++ "' has no field '" ++ field ++ "'"
  | argumentsOnFragment on => "Inline fragment on '" ++ on ++ "' cannot take arguments"
  | ambiguousHead => "A selection needs exactly one of `type`, `field` or `on`"
  | unknownType name => "Unknown type '" ++ name ++ "'"

namespace Registry

/-- The type with a declared name. -/
def resolveType (registry : Registry) (name : String) : Except ResolveError ObjectType :=
  match registry.type? name with
  | some type => .ok type
  | none => .error (.unknownType name)

/-- The head of a node, with the scope below it. -/
def resolveHead (registry : Registry) (scope : Option ObjectType)
    (typeName field on : Option String) (arguments : List (String × String)) :
    Except ResolveError (Head × Option ObjectType) :=
  match typeName, field, on with
  | some name, none, none => do
    let type ← registry.resolveType name
    let head := if arguments.isEmpty then .type type
      else .operation (.argument (.type type) arguments)
    return (head, some type)
  | none, some name, none =>
    match scope with
    | none => .error (.noScope name)
    | some owner =>
      match owner.field? name with
      | none => .error (.noField owner.name name)
      | some field =>
        let head := if arguments.isEmpty then .field field
          else .operation (.argument (.field field) arguments)
        .ok (head, field.referencedType?.bind registry.type?)
  | none, none, some name =>
    if arguments.isEmpty then do
      let type ← registry.resolveType name
      return (.operation (.on type), some type)
    else .error (.argumentsOnFragment name)
  | _, _, _ => .error .ambiguousHead

/-- The item that a plain name stands for. -/
def resolveName (scope : Option ObjectType) (name : String) : Item :=
  match scope.bind (·.field? name) with
  | some field => .field field
  | none => .name name

mutual

/-- The selection of a node. -/
def resolveNode (registry : Registry) (scope : Option ObjectType) :
    OutlineNode → Except ResolveError Selection
  | ⟨typeName, field, on, arguments, items⟩ => do
    let (head, inner) ← registry.resolveHead scope typeName field on arguments
    return ⟨head, ← resolveItems registry inner items⟩

/-- The items of a list in a scope. -/
def resolveItems (registry : Registry) (scope : Option ObjectType) :
    List OutlineItem → Except ResolveError (List Item)
  | [] => .ok []
  | item :: rest => do
    let first ← resolveItem registry scope item
    return first :: (← resolveItems registry scope rest)

/-- One item in a scope. -/
def resolveItem (registry : Registry) (scope : Option ObjectType) :
    OutlineItem → Except ResolveError Item
  | .name name => .ok (resolveName scope name)
  | .node node => .selection <$> resolveNode registry scope node
  | .fragmentRef name => .ok (.operation (.fragmentRef name))

end

/-- The definition of a fragment. -/
def resolveFragment (registry : Registry) (fragment : OutlineFragment) :
    Except ResolveError Fragment := do
  let on ← registry.resolveType fragment.on
  let items ← registry.resolveItems (some on) fragment.items
  return { key := .fragment fragment.name on, items }

/-- The selections and fragments of a document. -/
def resolve (registry : Registry) (document : SelectionDocument) :
    Except ResolveError (List Selection × List Fragment) := do
  let selections ← document.selections.mapM (registry.resolveNode none)
  let fragments ← document.fragments.mapM registry.resolveFragment
  return (selections, fragments)

end Registry

end TypedQuery
