import TypedQuery.Schema.Field

/-!
# Binding a field in place

A field that is bound is one value that changes under way. What follows are the two calls that bind
it as they are carried out: each looks at what is bound already, may be refused, and writes one part
of the field after the other. A refusal takes nothing back.
-/

namespace TypedQuery.Field

/-- A computation on one field that changes in place. -/
abbrev InPlace (α : Type) : Type := EStateM DeclarationError Field α

namespace InPlace

/-- Gives the field its name. A wire name that was not chosen becomes the name. -/
def bindName (name : String) : InPlace Unit := do
  if (← get).name.isSome then throw (.fieldAlreadyBound name .name)
  if (← get).typeBound then throw (.fieldAlreadyBound name .type)
  modify fun field => { field with queryName := some (field.queryName.getD name) }
  modify fun field => { field with mutateName := some (field.mutateName.getD name) }
  modify fun field => { field with name := some name }

/-- Takes the outer layer off a declared type, notes on the field which one it was, and answers the
target that is left. -/
def unwrap : DeclaredType → InPlace Target
  | .list inner => do
    modify fun field => { field with isCollection := true }
    return inner.terminal
  | .map inner => do
    modify fun field => { field with allowsMapping := true }
    return if inner.terminal = .scalar then .mapping else inner.terminal
  | terminal => return terminal.terminal

/-- Gives the field its type. -/
def bindType (declared : DeclaredType) : InPlace Unit := do
  let field ← get
  if field.typeBound then throw (.fieldAlreadyBound field.label .type)
  let target ← unwrap declared
  modify fun field => { field with target }
  modify fun field => { field with typeBound := true }

end InPlace

end TypedQuery.Field
