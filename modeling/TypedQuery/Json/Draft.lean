import TypedQuery.Json.Token

/-!
# Drafts: JSON text as far as it goes

A reader that looks for a record in a text meets its problems in one order: a wrong key before a
missing colon after it, a wrong value before the broken bracket that follows. To keep that order
without reading the characters twice, a text is first read into a *draft*, which holds every value
up to the first fault and the fault in its place. Whoever walks a draft from front to back then
meets the same problems in the same order as a reader of the characters.

## Shape of the construction

The tokens drive an automaton. Its states say which token may come next and carry the containers
that are still open, innermost first, each with the hole that the current value will fill. The
number of open containers is the depth, and an opening bracket beyond the permitted depth is a
fault.
-/

namespace TypedQuery.Json

/-- How a container ends. -/
inductive Closing where
  | closed
  /-- A fault where a separator or the closing bracket should stand. -/
  | unseparated (fault : Fault)
  /-- A fault after a comma. -/
  | afterComma (fault : Fault)
deriving DecidableEq, Repr

/-- The fault that a reader meets after the last item or member. -/
def Closing.fault? : Closing → Option Fault
  | closed => none
  | unseparated fault | afterComma fault => some fault

/-- A JSON value up to its first fault. Members are kept as they were written, repeated keys
included. -/
inductive Draft where
  | null
  | bool (value : Bool)
  | number (value : Number)
  | string (value : String)
  | list (items : List Draft) (closing : Closing)
  | object (members : List (String × Draft)) (closing : Closing)
  /-- A word or a number that goes wrong. -/
  | garbled (fault : Fault)
  /-- No value stands here, or a text between quotes that goes wrong. -/
  | broken (fault : Fault)
deriving Inhabited

namespace Draft

mutual

/-- The draft of a value, which has no fault. -/
def ofJson : Json → Draft
  | .null => .null
  | .bool b => .bool b
  | .number n => .number n
  | .string s => .string s
  | .list items => .list (ofItems items) .closed
  | .object members => .object (ofMembers members) .closed

/-- The drafts of items. -/
def ofItems : List Json → List Draft
  | [] => []
  | item :: rest => ofJson item :: ofItems rest

/-- The drafts of members. -/
def ofMembers : List (String × Json) → List (String × Draft)
  | [] => []
  | (key, value) :: rest => (key, ofJson value) :: ofMembers rest

end

mutual

/-- The value of a draft, or its first fault. A repeated key keeps its first place and takes the
last value. -/
def value? : Draft → Except Fault Json
  | .null => .ok .null
  | .bool b => .ok (.bool b)
  | .number n => .ok (.number n)
  | .string s => .ok (.string s)
  | .list items closing => do
    let values ← items? items
    match closing.fault? with
    | some fault => .error fault
    | none => return .list values
  | .object members closing => do
    let values ← members? members
    match closing.fault? with
    | some fault => .error fault
    | none => return .object (Table.ofWrites values)
  | .garbled fault | .broken fault => .error fault

/-- The values of items. -/
def items? : List Draft → Except Fault (List Json)
  | [] => .ok []
  | item :: rest => do
    let value ← value? item
    return value :: (← items? rest)

/-- The values of members, repeated keys included. -/
def members? : List (String × Draft) → Except Fault (List (String × Json))
  | [] => .ok []
  | (key, draft) :: rest => do
    let value ← value? draft
    return (key, value) :: (← members? rest)

end

mutual

/-- The number of containers on the longest way into a draft. -/
def depth : Draft → Nat
  | .list items _ => depthItems items + 1
  | .object members _ => depthMembers members + 1
  | _ => 0

/-- The greatest depth of items. -/
def depthItems : List Draft → Nat
  | [] => 0
  | item :: rest => max (depth item) (depthItems rest)

/-- The greatest depth of members. -/
def depthMembers : List (String × Draft) → Nat
  | [] => 0
  | (_, draft) :: rest => max (depth draft) (depthMembers rest)

end

end Draft

/-! ## From tokens to a draft -/

/-- An open container with the hole that the current value fills. What it holds so far is kept last
first. -/
inductive Frame where
  | item (items : List Draft)
  | member (members : List (String × Draft)) (key : String)

/-- What may come next in a text. -/
inductive Position where
  /-- A value. -/
  | value (outer : List Frame)
  /-- The first item of a list, or its end. -/
  | firstItem (outer : List Frame)
  /-- An item, after a comma. -/
  | nextItem (items : List Draft) (outer : List Frame)
  /-- A comma after an item, or the end of the list. -/
  | afterItem (items : List Draft) (outer : List Frame)
  /-- The first key of an object, or its end. -/
  | firstKey (outer : List Frame)
  /-- A key, after a comma. -/
  | nextKey (members : List (String × Draft)) (outer : List Frame)
  /-- The colon after a key. -/
  | colon (members : List (String × Draft)) (key : String) (outer : List Frame)
  /-- A comma after a member, or the end of the object. -/
  | afterMember (members : List (String × Draft)) (outer : List Frame)
  /-- Nothing: the value is complete. -/
  | complete (value : Draft)
  /-- Nothing is read any more after a fault. -/
  | stopped (value : Draft)

/-- Puts a value into the innermost hole. -/
def fill (value : Draft) : List Frame → Position
  | [] => .complete value
  | .item items :: outer => .afterItem (value :: items) outer
  | .member members key :: outer => .afterMember ((key, value) :: members) outer

/-- The draft of a text that is read no further than a value with a fault: every open container ends
with that value. -/
def cut (fault : Fault) (value : Draft) (outer : List Frame) : Draft :=
  outer.foldl
    (fun (inner : Draft) frame => match frame with
      | .item items => .list (inner :: items).reverse (.unseparated fault)
      | .member members key => .object ((key, inner) :: members).reverse (.unseparated fault))
    value

/-- The draft of a text with a fault where a value should stand. -/
def cutValue (fault : Fault) (outer : List Frame) : Draft :=
  cut fault (.broken fault) outer

/-- The draft of a text with a word or a number that goes wrong. -/
def cutGarbled (fault : Fault) (outer : List Frame) : Draft :=
  cut fault (.garbled fault) outer

/-- The draft of a text that ends inside a list. -/
def cutList (items : List Draft) (closing : Closing) (outer : List Frame) : Draft :=
  cut (closing.fault?.getD .valueExpected) (.list items.reverse closing) outer

/-- The draft of a text that ends inside an object. -/
def cutObject (members : List (String × Draft)) (closing : Closing) (outer : List Frame) : Draft :=
  cut (closing.fault?.getD .valueExpected) (.object members.reverse closing) outer

/-- The first token of a value. -/
def beginValue (limit : Option Nat) (outer : List Frame) (token : Token) : Position :=
  let tooDeep := limit.any (· ≤ outer.length)
  match token with
  | .openList =>
    if tooDeep then .stopped (cutList [] (.unseparated .tooDeep) outer) else .firstItem outer
  | .openObject =>
    if tooDeep then .stopped (cutObject [] (.unseparated .tooDeep) outer) else .firstKey outer
  | .null => fill .null outer
  | .bool b => fill (.bool b) outer
  | .number n => fill (.number n) outer
  | .string s => fill (.string s) outer
  | .brokenString fault => .stopped (cutValue fault outer)
  | .broken fault => .stopped (cutGarbled fault outer)
  | .closeList | .closeObject | .comma | .colon => .stopped (cutValue .valueExpected outer)

/-- What one token does. -/
def positionStep (limit : Option Nat) (position : Position) (token : Token) : Position :=
  match position with
  | .value outer => beginValue limit outer token
  | .firstItem outer =>
    match token with
    | .closeList => fill (.list [] .closed) outer
    | token => beginValue limit (.item [] :: outer) token
  | .nextItem items outer =>
    match token with
    | .closeList => .stopped (cutList items (.afterComma .trailingComma) outer)
    | token => beginValue limit (.item items :: outer) token
  | .afterItem items outer =>
    match token with
    | .comma => .nextItem items outer
    | .closeList => fill (.list items.reverse .closed) outer
    | _ => .stopped (cutList items (.unseparated .listCommaOrEndExpected) outer)
  | .firstKey outer =>
    match token with
    | .string key => .colon [] key outer
    | .closeObject => fill (.object [] .closed) outer
    | .brokenString fault => .stopped (cutObject [] (.unseparated fault) outer)
    | _ => .stopped (cutObject [] (.unseparated .keyNotString) outer)
  | .nextKey members outer =>
    match token with
    | .string key => .colon members key outer
    | .closeObject => .stopped (cutObject members (.afterComma .trailingComma) outer)
    | .brokenString fault => .stopped (cutObject members (.afterComma fault) outer)
    | _ => .stopped (cutObject members (.afterComma .keyNotString) outer)
  | .colon members key outer =>
    match token with
    | .colon => .value (.member members key :: outer)
    | _ => .stopped (cutValue .colonExpected (.member members key :: outer))
  | .afterMember members outer =>
    match token with
    | .comma => .nextKey members outer
    | .closeObject => fill (.object members.reverse .closed) outer
    | _ => .stopped (cutObject members (.unseparated .objectCommaOrEndExpected) outer)
  | .complete value => .complete value
  | .stopped value => .stopped value

/-- The draft that the end of the text leaves. -/
def positionEnd : Position → Draft
  | .value outer => cutValue .endInValue outer
  | .firstItem outer => cutList [] (.unseparated .endInList) outer
  | .nextItem items outer => cutList items (.afterComma .endInValue) outer
  | .afterItem items outer => cutList items (.unseparated .endInList) outer
  | .firstKey outer => cutObject [] (.unseparated .endInObject) outer
  | .nextKey members outer => cutObject members (.afterComma .endInValue) outer
  | .colon members key outer => cutValue .endInObject (.member members key :: outer)
  | .afterMember members outer => cutObject members (.unseparated .endInObject) outer
  | .complete value | .stopped value => value

/-- A whole text: its value, and whether anything but blanks follows it. -/
structure Draft.Document where
  root : Draft
  trailing : Bool

/-- Reads tokens from a position on. -/
def draftFrom (limit : Option Nat) : Position → List Token → Draft.Document
  | .complete value, tokens => ⟨value, !tokens.isEmpty⟩
  | .stopped value, _ => ⟨value, false⟩
  | position, [] => ⟨positionEnd position, false⟩
  | position, token :: rest => draftFrom limit (positionStep limit position token) rest

/-- The draft of a text. -/
def draftOf (limit : Option Nat) (source : Source) : Draft.Document :=
  draftFrom limit (.value []) (tokens source)

/-- The greatest depth of a document: an opening bracket inside 127 others is too deep. -/
def documentDepth : Nat := 127

/-- Reads a JSON text, with a limit on its depth or without. -/
def parse (limit : Option Nat) (source : Source) : Except Fault Json := do
  let document := draftOf limit source
  let value ← document.root.value?
  if document.trailing then .error .trailingCharacters else return value

end TypedQuery.Json
