import TypedQuery.Display.Style
import TypedQuery.Json.Printer
import TypedQuery.Schema.Registry

/-!
# Descriptions of types

A type is shown with its names, its roots and implementers, and a line for each field. What agrees
with the declared name is not repeated: a typename or a wire name is shown only if it differs.
-/

namespace TypedQuery

/-- What a field's values are made of, in brackets for a collection. -/
def FieldTraits.targetText (field : FieldTraits) : String :=
  let target := match field.target with
    | .scalar => "scalar"
    | .object name => name
    | .mapping => "mapping"
  if field.isCollection then "[" ++ target ++ "]" else target

/-- The line of a field. -/
def FieldTraits.describe (color : Bool) (field : FieldTraits) : String :=
  field.label ++ ": " ++ Style.yellow.paint color field.targetText ++
    (if field.wireQueryName = field.label then ""
      else " " ++ Style.cyan.paint color "query" ++ " " ++ field.wireQueryName) ++
    (if field.wireMutateName = field.label then ""
      else " " ++ Style.cyan.paint color "mutate" ++ " " ++ field.wireMutateName) ++
    (match field.default with
      | some value => " = " ++ value.text
      | none => "") ++
    (if field.mutable then "" else " " ++ Style.dimmed.paint color "(read-only)")

namespace Registry

/-- The description of a type. -/
def describeType (registry : Registry) (color : Bool) (type : ObjectType) : String :=
  let keyword (text : String) := Style.cyan.paint color text
  let root (label : String) (name : Option String) :=
    match name with
    | some name => "  # " ++ label ++ ": " ++ Style.purple.paint color name ++ "\n"
    | none => ""
  let implementers := (registry.implementersOf type.name).map fun (typename, concrete) =>
    "  # implementer: " ++ Style.yellow.paint color typename ++ " -> " ++
      Style.green.paint color concrete.name ++ "\n"
  let fields := type.fields.map fun field =>
    "  " ++ field.toFieldTraits.describe color ++ "\n"
  keyword "type" ++ " " ++ Style.green.paint color type.name ++
    (if type.typename = type.name then ""
      else " " ++ keyword "as" ++ " " ++ Style.yellow.paint color type.typename) ++
    (match type.parent with
      | some parent => " " ++ keyword "extends" ++ " " ++ Style.green.paint color parent
      | none => "") ++
    " \x7b\n" ++ root "query root" type.queryRoot? ++ root "mutation root" type.mutateRoot? ++
    String.join implementers ++ String.join fields ++ "\x7d"

/-- The descriptions of all types, in declaration order. -/
def describeTypes (registry : Registry) (color : Bool) : String :=
  match registry.types with
  | [] => Style.yellow.paint color "No types declared."
  | types => "\n\n".intercalate (types.map (registry.describeType color))

end Registry

end TypedQuery
