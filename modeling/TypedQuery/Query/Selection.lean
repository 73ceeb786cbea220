import TypedQuery.Schema.ObjectType

/-!
# Selections

A selection is a head and a list of items: the head names what the items belong to. Operations mark
special places: arguments on a head, an inline fragment, the key of a fragment definition, and the
use of a fragment. A tree may put any of them anywhere; writing it decides which places are legal.
-/

namespace TypedQuery

/-- The kinds of operations. -/
inductive OperationKind where
  | argument
  | on
  | fragment
  | fragmentRef
deriving DecidableEq, Repr

/-- The name of a kind of operation in messages. -/
def OperationKind.describe : OperationKind → String
  | argument => "ARGUMENT"
  | on => "ON"
  | fragment => "FRAGMENT"
  | fragmentRef => "FRAGMENT_REF"

/-- What arguments are attached to. -/
inductive ArgumentTarget where
  | type (type : ObjectType)
  | field (field : Field)
deriving Inhabited

/-- An operation in a selection tree. -/
inductive Operation where
  /-- Arguments on a head, in order. -/
  | argument (target : ArgumentTarget) (arguments : List (String × String))
  /-- An inline fragment: the items belong to one concrete type. -/
  | on (type : ObjectType)
  /-- The key of a fragment definition. -/
  | fragment (name : String) (on : ObjectType)
  /-- The use of a fragment. -/
  | fragmentRef (name : String)
deriving Inhabited

/-- The kind of an operation. -/
def Operation.kind : Operation → OperationKind
  | argument _ _ => .argument
  | on _ => .on
  | fragment _ _ => .fragment
  | fragmentRef _ => .fragmentRef

/-- What the items of a selection belong to. -/
inductive Head where
  | type (type : ObjectType)
  | field (field : Field)
  | name (name : String)
  | operation (operation : Operation)
deriving Inhabited

mutual

/-- A member of a selection. -/
inductive Item where
  | field (field : Field)
  /-- A field given by its wire name. -/
  | name (name : String)
  | selection (selection : Selection)
  | operation (operation : Operation)

/-- A head and its items. -/
structure Selection where
  head : Head
  items : List Item

end

instance : Inhabited Item := ⟨.name ""⟩

instance : Inhabited Selection := ⟨⟨default, []⟩⟩

/-- A fragment definition. Only a fragment operation is a legal key. -/
structure Fragment where
  key : Operation
  items : List Item
deriving Inhabited

/-- The kind of a document. -/
inductive OperationType where
  | query
  | mutation
deriving DecidableEq, Repr

/-- The keyword that a document begins with. -/
def OperationType.keyword : OperationType → String
  | query => "query"
  | mutation => "mutation"

/-- The root name that a type has in a kind of document. -/
def OperationType.root? : OperationType → ObjectType → Option String
  | query, type => type.queryRoot?
  | mutation, type => type.mutateRoot?

end TypedQuery
