import TypedQuery.Json.Record
import TypedQuery.Query.Selection

/-!
# Selection documents

A selection document is a selection tree written as JSON in declared names: a list of nodes and a
list of fragments. A node names its head by exactly one of `type`, `field` and `on`, may give
arguments, and lists its items. An item is a name, a node, or the use of a fragment.

The form of an item is not announced, so an item is read whole first, and then the forms are tried
in this order. What is wrong with an item that has none of them is not said.
-/

namespace TypedQuery

open Json

mutual

/-- A head and its items, by name. -/
structure OutlineNode where
  typeName : Option String
  field : Option String
  on : Option String
  arguments : List (String × String)
  items : List OutlineItem

/-- An item by name. -/
inductive OutlineItem where
  | name (name : String)
  | node (node : OutlineNode)
  | fragmentRef (name : String)

end

instance : Inhabited OutlineItem := ⟨.name ""⟩

instance : Inhabited OutlineNode := ⟨⟨none, none, none, [], []⟩⟩

/-- A fragment by name. -/
structure OutlineFragment where
  name : String
  on : String
  items : List OutlineItem
deriving Inhabited

/-- A selection document. -/
structure SelectionDocument where
  selections : List OutlineNode
  fragments : List OutlineFragment := []
deriving Inhabited

namespace OutlineNode

/-- The parts of a node that are known while it is read. -/
structure Parts where
  typeName : Option String := none
  field : Option String := none
  on : Option String := none
  arguments : Option (Table String) := none
  items : Option (List OutlineItem) := none

/-- How a node is written, given how its items are read. -/
def format (readItem : Reader OutlineItem) : RecordFormat Parts OutlineNode where
  name := "NodeSpec"
  fields := ["type", "field", "on", "args", "fields"]
  mandatory := ["type", "field", "on", "fields"]
  strict := true
  start := {}
  put parts key draft :=
    match key with
    | "type" => do return { parts with typeName := ← draft.readOptional Draft.readString }
    | "field" => do return { parts with field := ← draft.readOptional Draft.readString }
    | "on" => do return { parts with on := ← draft.readOptional Draft.readString }
    | "args" => do return { parts with arguments := some (← draft.readTable Draft.readString) }
    | "fields" => do return { parts with items := some (← draft.readList readItem) }
    | _ => .ok parts
  finish parts := do
    return {
      typeName := parts.typeName
      field := parts.field
      on := parts.on
      arguments := parts.arguments.getD []
      items := ← required "fields" parts.items }

end OutlineNode

namespace OutlineItem

/-- How the use of a fragment is written. -/
def fragmentRefFormat : RecordFormat (Option String) String where
  name := "FragmentRefSpec"
  fields := ["fragment_ref"]
  mandatory := ["fragment_ref"]
  strict := true
  start := none
  put known key draft :=
    match key with
    | "fragment_ref" => some <$> draft.readString
    | _ => .ok known
  finish known := required "fragment_ref" known

/-- Reads an item, given how nodes are read. -/
def readWith (readNode : Reader OutlineNode) : Reader OutlineItem := fun draft => do
  let _ ← draft.readJson
  match draft with
  | .string text => return .name text
  | draft =>
    match readNode draft with
    | .ok read => return .node read
    | .error _ =>
      match fragmentRefFormat.read .value draft with
      | .ok fragment => return .fragmentRef fragment
      | .error _ => .error (.mismatch (.noVariant "ItemSpec"))

/-- Reads an item of at most the given depth. Nothing is nested in a value without depth. -/
def readWithin : Nat → Reader OutlineItem
  | 0 => readWith fun draft => draft.refuse "struct NodeSpec"
  | depth + 1 => readWith ((OutlineNode.format (readWithin depth)).read .value)

/-- Reads an item. -/
def read : Reader OutlineItem := fun draft => readWithin draft.depth draft

end OutlineItem

namespace OutlineFragment

/-- The parts of a fragment that are known while it is read. -/
structure Parts where
  name : Option String := none
  on : Option String := none
  items : Option (List OutlineItem) := none

/-- How a fragment is written. -/
def format : RecordFormat Parts OutlineFragment where
  name := "FragmentSpec"
  fields := ["fragment", "on", "fields"]
  mandatory := ["fragment", "on", "fields"]
  strict := true
  start := {}
  put parts key draft :=
    match key with
    | "fragment" => do return { parts with name := some (← draft.readString) }
    | "on" => do return { parts with on := some (← draft.readString) }
    | "fields" => do return { parts with items := some (← draft.readList OutlineItem.read) }
    | _ => .ok parts
  finish parts := do
    let name ← required "fragment" parts.name
    let on ← required "on" parts.on
    let items ← required "fields" parts.items
    return { name, on, items }

end OutlineFragment

namespace SelectionDocument

/-- The parts of a document that are known while it is read. -/
structure Parts where
  selections : Option (List OutlineNode) := none
  fragments : Option (List OutlineFragment) := none

/-- How a selection document is written. -/
def format : RecordFormat Parts SelectionDocument where
  name := "SelectionDocument"
  fields := ["selections", "fragments"]
  mandatory := ["selections"]
  strict := true
  start := {}
  put parts key draft :=
    match key with
    | "selections" => do
      let read : Reader OutlineNode := (OutlineNode.format OutlineItem.read).read .text
      return { parts with selections := some (← draft.readList read) }
    | "fragments" => do
      return { parts with
        fragments := some (← draft.readList (OutlineFragment.format.read .text)) }
    | _ => .ok parts
  finish parts := do
    return {
      selections := ← required "selections" parts.selections
      fragments := parts.fragments.getD [] }

/-- Reads a selection document from its text. -/
def ofText (source : String) : Except ReadError SelectionDocument :=
  readText (format.read .text) source

end SelectionDocument

end TypedQuery
