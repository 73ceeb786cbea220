import TypedQuery.Json.Draft
import TypedQuery.Json.Printer
import TypedQuery.Text.Quoted

/-!
# Typed values from JSON

A typed reader walks a draft from front to back and stops at the first problem: a fault of the text,
or a mismatch between what stands there and what is wanted.

## Records

A record has named fields and is written as an object with a member for each, or as a list with the
values of its fields in the order of declaration. The reader of an object looks at each key before
its value: a key that is no field of a strict record, or one that was read before, stops it. Fields
that are missing are looked for when the object has closed. The reader of a list takes as many items
as there are fields; the fields that a list may leave out take their defaults, and an item too many
is a mismatch in a value and a fault in a text.
-/

namespace TypedQuery.Json

/-- What a draft stands for: a text that is being read, or a value that is already there. -/
inductive Origin where
  | text
  | value
deriving DecidableEq, Repr

/-- What a reader finds where it wants something else. -/
inductive Found where
  | null
  | bool (value : Bool)
  | number (value : Number)
  | string (value : String)
  | list
  | object
  /-- A bare variant name. -/
  | unitVariant
deriving DecidableEq, Repr

/-- The description of a finding. -/
def Found.describe : Found → String
  | null => "null"
  | bool true => "boolean `true`"
  | bool false => "boolean `false`"
  | number (.integer n) => "integer `" ++ (Number.integer n).text ++ "`"
  | number (.float x) => "floating point `" ++ (Number.float x).text ++ "`"
  | string s => "string " ++ Text.quoted s
  | list => "sequence"
  | object => "map"
  | unitVariant => "unit variant"

/-- How well-formed JSON fails to be what is wanted. -/
inductive Mismatch where
  | wrongType (found : Found) (wanted : String)
  | wrongValue (found : Found) (wanted : String)
  | wrongLength (length : Nat) (wanted : String)
  | missingField (name : String)
  | unknownField (name : String) (fields : List String)
  | duplicateField (name : String)
  | unknownVariant (name : String) (variants : List String)
  /-- None of the alternatives of a type reads. -/
  | noVariant (type : String)
deriving DecidableEq, Repr

/-- A list of names as a message offers them. -/
def oneOf : List String → String
  | [] => ""
  | [a] => "`" ++ a ++ "`"
  | [a, b] => "`" ++ a ++ "` or `" ++ b ++ "`"
  | names => "one of " ++ ", ".intercalate (names.map fun name => "`" ++ name ++ "`")

/-- The wording of a mismatch. -/
def Mismatch.message : Mismatch → String
  | wrongType found wanted => "invalid type: " ++ found.describe ++ ", expected " ++ wanted
  | wrongValue found wanted => "invalid value: " ++ found.describe ++ ", expected " ++ wanted
  | wrongLength length wanted => "invalid length " ++ toString length ++ ", expected " ++ wanted
  | missingField name => "missing field `" ++ name ++ "`"
  | unknownField name fields => "unknown field `" ++ name ++ "`, expected " ++ oneOf fields
  | duplicateField name => "duplicate field `" ++ name ++ "`"
  | unknownVariant name variants =>
    "unknown variant `" ++ name ++ "`, expected " ++ oneOf variants
  | noVariant type => "data did not match any variant of untagged enum " ++ type

/-- Why a typed value cannot be read. -/
inductive ReadError where
  | fault (fault : Fault)
  | mismatch (mismatch : Mismatch)
deriving DecidableEq, Repr

namespace ReadError

/-- The category of a reading error. -/
def category : ReadError → Category
  | fault f => f.category
  | mismatch _ => .data

/-- The wording of a reading error. -/
def message : ReadError → String
  | fault f => f.message
  | mismatch m => m.message

end ReadError

/-- A reader of a type. -/
abbrev Reader (α : Type) := Draft → Except ReadError α

namespace Draft

/-- Refuses a value of another type than the wanted one. -/
def refuse {α : Type} (wanted : String) : Draft → Except ReadError α
  | .null => .error (.mismatch (.wrongType .null wanted))
  | .bool b => .error (.mismatch (.wrongType (.bool b) wanted))
  | .number n => .error (.mismatch (.wrongType (.number n) wanted))
  | .string s => .error (.mismatch (.wrongType (.string s) wanted))
  | .list _ _ => .error (.mismatch (.wrongType .list wanted))
  | .object _ _ => .error (.mismatch (.wrongType .object wanted))
  | .garbled fault | .broken fault => .error (.fault fault)

/-- Reads any value. -/
def readJson (draft : Draft) : Except ReadError Json :=
  draft.value?.mapError .fault

/-- Reads a text. -/
def readString : Reader String
  | .string s => .ok s
  | draft => draft.refuse "a string"

/-- Reads a truth value. -/
def readBool : Reader Bool
  | .bool b => .ok b
  | draft => draft.refuse "a boolean"

/-- Reads a natural of 32 bits. -/
def readWord : Reader Nat
  | .number (.integer n) =>
    if 0 ≤ n ∧ n < Nat.pow 2 32 then .ok n.toNat
    else .error (.mismatch (.wrongValue (.number (.integer n)) "u32"))
  | draft => draft.refuse "u32"

/-- Reads a value or `null`. -/
def readOptional {α : Type} (read : Reader α) : Reader (Option α)
  | .null => .ok none
  | draft => some <$> read draft

/-- Stops at the fault that ends a container, if there is one. -/
def expectClosed (closing : Closing) : Except ReadError Unit :=
  match closing.fault? with
  | some fault => .error (.fault fault)
  | none => .ok ()

/-- Reads a list of any length. -/
def readList {α : Type} (read : Reader α) : Reader (List α)
  | .list items closing => do
    let values ← items.mapM read
    expectClosed closing
    return values
  | draft => draft.refuse "a sequence"

/-- Reads an object as a table; a repeated key keeps its first place and takes the last value. -/
def readTable {α : Type} (read : Reader α) : Reader (Table α)
  | .object members closing => do
    let entries ← members.mapM fun (key, draft) => do return (key, ← read draft)
    expectClosed closing
    return Table.ofWrites entries
  | draft => draft.refuse "a map"

end Draft

/-! ## Records -/

/-- How a record is read: its fields in order of declaration, those that a list must hold, and what
reading a field does to the part of the record that is known so far. -/
structure RecordFormat (σ α : Type) where
  name : String
  fields : List String
  mandatory : List String
  /-- Whether other keys are refused. -/
  strict : Bool
  start : σ
  put : σ → String → Reader σ
  finish : σ → Except ReadError α

namespace RecordFormat

variable {σ α : Type}

/-- Reads the members of an object; `seen` are the fields already read. -/
def readMembers (format : RecordFormat σ α) (seen : List String) (known : σ) :
    List (String × Draft) → Except ReadError σ
  | [] => .ok known
  | (key, draft) :: rest =>
    if key ∈ format.fields then
      if key ∈ seen then .error (.mismatch (.duplicateField key))
      else do
        let known ← format.put known key draft
        readMembers format (key :: seen) known rest
    else if format.strict then .error (.mismatch (.unknownField key format.fields))
    else do
      let _ ← draft.readJson
      readMembers format seen known rest

/-- The wanted length of a list that holds a record. -/
def wantedLength (format : RecordFormat σ α) : String :=
  let count := format.fields.length
  "struct " ++ format.name ++ " with " ++ toString count ++
    (if count = 1 then " element" else " elements")

/-- Reads the fields that are left from the items that are left; `position` counts the items read.
The second result is the items too many. -/
def readItems (format : RecordFormat σ α) (closing : Closing) (position : Nat) (known : σ) :
    List String → List Draft → Except ReadError (σ × List Draft)
  | [], items => .ok (known, items)
  | field :: fields, item :: items => do
    let known ← format.put known field item
    readItems format closing (position + 1) known fields items
  | field :: fields, [] => do
    Draft.expectClosed closing
    if field ∈ format.mandatory then
      .error (.mismatch (.wrongLength position format.wantedLength))
    else readItems format closing (position + 1) known fields []

/-- What follows the last field of a record in a list. -/
def endItems (origin : Origin) (length : Nat) (extra : List Draft) (closing : Closing) :
    Except ReadError Unit :=
  match extra, closing with
  | [], .closed => .ok ()
  | [], .unseparated .endInList => .error (.fault .endInList)
  | [], .afterComma .trailingComma => .error (.fault .trailingComma)
  | [], _ => .error (.fault .trailingCharacters)
  | _ :: _, _ =>
    match origin with
    | .text => .error (.fault .trailingCharacters)
    | .value => .error (.mismatch (.wrongLength length "fewer elements in array"))

/-- Reads a record. -/
def read (format : RecordFormat σ α) (origin : Origin) : Reader α
  | .object members closing => do
    let known ← format.readMembers [] format.start members
    Draft.expectClosed closing
    format.finish known
  | .list items closing => do
    let (known, extra) ← format.readItems closing 0 format.start format.fields items
    let record ← format.finish known
    endItems origin items.length extra closing
    return record
  | draft => draft.refuse ("struct " ++ format.name)

end RecordFormat

/-- The value of a field that must be there. -/
def required {α : Type} (name : String) : Option α → Except ReadError α
  | some value => .ok value
  | none => .error (.mismatch (.missingField name))

/-- Reads a whole text as a type: nothing may follow the value. -/
def readText {α : Type} (read : Reader α) (source : String) : Except ReadError α := do
  let document := draftOf (some documentDepth) (Source.ofString source)
  let value ← read document.root
  if document.trailing then .error (.fault .trailingCharacters) else return value

end TypedQuery.Json
