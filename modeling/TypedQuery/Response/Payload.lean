import TypedQuery.Json.Record

/-!
# Payloads

The body of a reply: data, errors, or both. Keys that are not known are ignored. Writing a payload
leaves out what is absent, so a `null` that was read is not written again.
-/

namespace TypedQuery

open Json

/-- A position in a document that an error refers to. -/
structure Location where
  line : Nat
  column : Nat
deriving DecidableEq, Repr, Inhabited

/-- An error that a server reports. -/
structure RemoteError where
  message : String
  locations : List Location := []
  path : Option (List Json) := none
deriving Inhabited

/-- The body of a reply. -/
structure Payload where
  data : Option Json := none
  errors : Option (List RemoteError) := none
deriving Inhabited

namespace Location

/-- How a location is written. -/
def format : RecordFormat (Option Nat × Option Nat) Location where
  name := "Location"
  fields := ["line", "column"]
  mandatory := ["line", "column"]
  strict := false
  start := (none, none)
  put parts key draft :=
    match key with
    | "line" => do return (some (← draft.readWord), parts.2)
    | "column" => do return (parts.1, some (← draft.readWord))
    | _ => .ok parts
  finish parts := do
    let line ← required "line" parts.1
    let column ← required "column" parts.2
    return { line, column }

/-- The object of a location. -/
def toJson (location : Location) : Json :=
  .object [("line", .ofInt location.line), ("column", .ofInt location.column)]

end Location

namespace RemoteError

/-- The parts of an error that are known while it is read. -/
structure Parts where
  message : Option String := none
  locations : Option (List Location) := none
  path : Option (List Json) := none

/-- How an error is written. A `null` for the locations stands for none. -/
def format (origin : Origin) : RecordFormat Parts RemoteError where
  name := "RemoteError"
  fields := ["message", "locations", "path"]
  mandatory := ["message"]
  strict := false
  start := {}
  put parts key draft :=
    match key with
    | "message" => do return { parts with message := some (← draft.readString) }
    | "locations" => do
      let read : Reader (List Location) := Draft.readList (Location.format.read origin)
      return { parts with locations := ← draft.readOptional read }
    | "path" => do
      return { parts with path := ← draft.readOptional (Draft.readList Draft.readJson) }
    | _ => .ok parts
  finish parts := do
    return {
      message := ← required "message" parts.message
      locations := parts.locations.getD []
      path := parts.path }

/-- The object of an error. -/
def toJson (error : RemoteError) : Json :=
  .object <|
    [("message", .string error.message)] ++
    (if error.locations.isEmpty then []
      else [("locations", .list (error.locations.map Location.toJson))]) ++
    (match error.path with
      | some path => [("path", .list path)]
      | none => [])

end RemoteError

namespace Payload

/-- How a payload is written. -/
def format (origin : Origin) : RecordFormat Payload Payload where
  name := "Payload"
  fields := ["data", "errors"]
  mandatory := []
  strict := false
  start := {}
  put payload key draft :=
    match key with
    | "data" => do return { payload with data := ← draft.readOptional Draft.readJson }
    | "errors" => do
      let read : Reader (List RemoteError) :=
        Draft.readList ((RemoteError.format origin).read origin)
      return { payload with errors := ← draft.readOptional read }
    | _ => .ok payload
  finish payload := .ok payload

/-- Reads a payload from a value. -/
def ofJson (value : Json) : Except ReadError Payload :=
  (format .value).read .value (Draft.ofJson value)

/-- The object of a payload. -/
def toJson (payload : Payload) : Json :=
  .object <|
    (match payload.data with
      | some data => [("data", data)]
      | none => []) ++
    (match payload.errors with
      | some errors => [("errors", .list (errors.map RemoteError.toJson))]
      | none => [])

end Payload

end TypedQuery
