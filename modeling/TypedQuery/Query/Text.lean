import TypedQuery.Json.Printer
import TypedQuery.Query.Selection

/-!
# Document text

A selection tree is written as one document without blanks: the keyword, the root selections in
braces, and then the fragment definitions. Every list of items ends with the discriminator, so that
replies say which type each object has. Argument values are string literals, escaped as in JSON.

Only root heads depend on the kind of document; everything below them is named as in queries.
Writing goes through the tree from left to right, a head before its items, and stops at the first
place that is not legal.
-/

namespace TypedQuery

/-- Why a selection tree has no text. -/
inductive QueryProblem where
  | noSelections
  | fieldAtRoot (field : String)
  | nameAtRoot (name : String)
  | typeBelowRoot (type : String)
  | nameBelowRoot (name : String)
  /-- A type has no root name of the kind that is needed. -/
  | noRoot (type : String) (operation : OperationType)
  | noItems
  /-- A field that refers to no object type has items. -/
  | notAnObject (field : String)
deriving DecidableEq, Repr

/-- The wording of a problem. -/
def QueryProblem.describe : QueryProblem → String
  | noSelections => "a document needs at least one root selection"
  | fieldAtRoot field => "field '" ++ field ++ "' cannot be the root of a selection"
  | nameAtRoot name =>
    "'" ++ name ++ "' cannot be the root of a selection, use a declared type"
  | typeBelowRoot type => "type '" ++ type ++ "' " ++ belowRoot
  | nameBelowRoot name => "'" ++ name ++ "' " ++ belowRoot
  | noRoot type operation => "type '" ++ type ++ "' has no " ++ operation.keyword ++ " root"
  | noItems => "a field list cannot be empty"
  | notAnObject field =>
    "field '" ++ field ++ "' does not reference an object type and cannot have a field list"
where
  belowRoot : String := "cannot head a nested selection, " ++
    "use an object field, an argument or an inline fragment"

/-- Why a selection tree is refused. -/
inductive QueryError where
  | invalid (problem : QueryProblem)
  /-- An operation stands where only others may. -/
  | illegalOperation (kind : OperationKind) (allowed : List OperationKind)
deriving DecidableEq, Repr

/-- The wording of a query error. -/
def QueryError.message : QueryError → String
  | invalid problem => "Invalid query specification: " ++ problem.describe
  | illegalOperation kind allowed =>
    "Operation " ++ kind.describe ++ " is not allowed here, expected one of: " ++
      ", ".intercalate (allowed.map (·.describe))

namespace Query

/-- A string literal. -/
def literal (value : String) : String := String.ofList (Json.quote value)

/-- Arguments in parentheses. -/
def argumentsText (arguments : List (String × String)) : String :=
  "(" ++ ",".intercalate (arguments.map fun (key, value) => key ++ ":" ++ literal value) ++ ")"

/-- The root name of a type in a kind of document. -/
def rootName (operation : OperationType) (type : ObjectType) : Except QueryError String :=
  match operation.root? type with
  | some root => .ok root
  | none => .error (.invalid (.noRoot type.name operation))

/-- The name of a field that heads a list of items. -/
def objectFieldName (field : Field) : Except QueryError String :=
  match field.target with
  | .object _ => .ok field.wireQueryName
  | .scalar | .mapping => .error (.invalid (.notAnObject field.label))

/-- An inline fragment without its items. -/
def inlineFragment (type : ObjectType) : String := "... on " ++ type.typename

/-- The error of an operation that cannot be a head. -/
def illegalHead (operation : Operation) : QueryError :=
  .illegalOperation operation.kind [.argument, .on]

/-- The text of a root head. -/
def rootHead (operation : OperationType) : Head → Except QueryError String
  | .type type => rootName operation type
  | .field field => .error (.invalid (.fieldAtRoot field.label))
  | .name name => .error (.invalid (.nameAtRoot name))
  | .operation (.argument (.type type) arguments) => do
    return (← rootName operation type) ++ argumentsText arguments
  | .operation (.argument (.field field) _) => .error (.invalid (.fieldAtRoot field.label))
  | .operation (.on type) => .ok (inlineFragment type)
  | .operation other => .error (illegalHead other)

/-- The text of a head below the root. -/
def nestedHead : Head → Except QueryError String
  | .field field => objectFieldName field
  | .type type => .error (.invalid (.typeBelowRoot type.name))
  | .name name => .error (.invalid (.nameBelowRoot name))
  | .operation (.argument (.type type) arguments) => do
    return (← rootName .query type) ++ argumentsText arguments
  | .operation (.argument (.field field) arguments) =>
    .ok (field.wireQueryName ++ argumentsText arguments)
  | .operation (.on type) => .ok (inlineFragment type)
  | .operation other => .error (illegalHead other)

/-- Items in braces, with the discriminator at the end. -/
def braced (items : String) : String := "\x7b" ++ items ++ "," ++ discriminator ++ "\x7d"

mutual

/-- The text of an item. -/
def itemText : Item → Except QueryError String
  | .field field => .ok field.wireQueryName
  | .name name => .ok name
  | .selection selection => nestedText selection
  | .operation (.fragmentRef name) => .ok ("..." ++ name)
  | .operation other => .error (.illegalOperation other.kind [.fragmentRef])

/-- The text of a selection below the root. -/
def nestedText : Selection → Except QueryError String
  | ⟨head, items⟩ => do
    let head ← nestedHead head
    return head ++ braced (← itemsText items)

/-- Items between commas; there must be one. -/
def itemsText : List Item → Except QueryError String
  | [] => .error (.invalid .noItems)
  | item :: rest => do
    let first ← itemText item
    return first ++ (← moreItems rest)

/-- The items after the first, each after a comma. -/
def moreItems : List Item → Except QueryError String
  | [] => .ok ""
  | item :: rest => do
    let first ← itemText item
    return "," ++ first ++ (← moreItems rest)

end

/-- The text of a root selection. -/
def rootText (operation : OperationType) (selection : Selection) : Except QueryError String := do
  let head ← rootHead operation selection.head
  return head ++ braced (← itemsText selection.items)

/-- The text of a fragment definition. -/
def fragmentText (fragment : Fragment) : Except QueryError String :=
  match fragment.key with
  | .fragment name on => do
    return "fragment " ++ name ++ " on " ++ on.typename ++ braced (← itemsText fragment.items)
  | other => .error (.illegalOperation other.kind [.fragment])

/-- The texts of a list of parts, one after the other. -/
def allTexts {α : Type} (text : α → Except QueryError String) : List α → Except QueryError String
  | [] => .ok ""
  | part :: rest => do
    let first ← text part
    return first ++ (← allTexts text rest)

/-- The text of a document. -/
def document (operation : OperationType) (selections : List Selection)
    (fragments : List Fragment) : Except QueryError String :=
  if selections.isEmpty then .error (.invalid .noSelections)
  else do
    let roots ← allTexts (rootText operation) selections
    let definitions ← allTexts fragmentText fragments
    return operation.keyword ++ "\x7b" ++ roots ++ "\x7d" ++ definitions

end Query

end TypedQuery
