import TypedQuery.Schema.Field
import TypedQuery.Text.Quoted

/-!
# Fields on one line

The full state of a field, bound or not, on one line, for those who look into a schema. Texts are
quoted, and values are shown with their kinds.
-/

namespace TypedQuery

namespace Json

mutual

/-- A value with the kinds of its parts. -/
def inspect : Json → String
  | null => "Null"
  | bool true => "Bool(true)"
  | bool false => "Bool(false)"
  | number n => "Number(" ++ n.text ++ ")"
  | string s => "String(" ++ Text.quoted s ++ ")"
  | list items => "Array [" ++ ", ".intercalate (inspectItems items) ++ "]"
  | object members => "Object \x7b" ++ ", ".intercalate (inspectMembers members) ++ "\x7d"

/-- Items with the kinds of their parts. -/
def inspectItems : List Json → List String
  | [] => []
  | item :: rest => inspect item :: inspectItems rest

/-- Members with the kinds of their parts. -/
def inspectMembers : List (String × Json) → List String
  | [] => []
  | (key, value) :: rest => (Text.quoted key ++ ": " ++ inspect value) :: inspectMembers rest

end

end Json

/-- A text that may be missing. -/
def inspectOptional : Option String → String
  | some s => "Some(" ++ Text.quoted s ++ ")"
  | none => "None"

/-- A target with the type that it refers to. -/
def Target.inspect : Target → String
  | scalar => "Scalar"
  | object name => "ObjectReference(" ++ Text.quoted name ++ ")"
  | mapping => "RawMapping"

/-- The full state of a field. -/
def Field.inspect (field : Field) : String :=
  let parts : List (String × String) := [
    ("name", inspectOptional field.name),
    ("query_name", inspectOptional field.queryName),
    ("mutate_name", inspectOptional field.mutateName),
    ("default", match field.default with
      | some value => "Value(" ++ value.inspect ++ ")"
      | none => "Unset"),
    ("target", field.target.inspect),
    ("is_collection", toString field.isCollection),
    ("allows_raw_mapping", toString field.allowsMapping),
    ("mutable", toString field.mutable),
    ("transform", toString field.transform.isSome)]
  "FieldDescriptor \x7b " ++
    ", ".intercalate (parts.map fun (name, value) => name ++ ": " ++ value) ++ " \x7d"

end TypedQuery
