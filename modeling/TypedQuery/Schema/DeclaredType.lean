/-!
# Declared types

The type of a field as a declaration writes it. A declared type may nest lists and maps to any
depth; what a field makes of it is decided when the field is bound.
-/

namespace TypedQuery

/-- The reserved key that carries the wire name of an object's own type. -/
def discriminator : String := "__typename"

/-- The declared type of a field. -/
inductive DeclaredType where
  | scalar
  /-- Objects of the type with this declared name. -/
  | object (name : String)
  | list (inner : DeclaredType)
  | map (inner : DeclaredType)
deriving DecidableEq, Repr, Inhabited

/-- What the values of a field are made of. -/
inductive Target where
  | scalar
  /-- Objects of the type with this declared name. -/
  | object (name : String)
  /-- A mapping, or anything nested deeper, kept as raw JSON. -/
  | mapping
deriving DecidableEq, Repr, Inhabited

/-- The target of a type below its outer layer: a list or a map that is left there is kept raw. -/
def DeclaredType.terminal : DeclaredType → Target
  | scalar => .scalar
  | object name => .object name
  | list _ | map _ => .mapping

end TypedQuery
