import TypedQuery.Json.Basic

/-!
# JSON text

The compact text of a value has no blanks; the indented text puts every item and member on a line of
its own, two blanks deeper than its container. A text between quotes escapes the quote, the
backslash and the characters below U+0020, five of these by a letter and the others by number.
Everything else stands as it is.
-/

namespace TypedQuery.Json

/-- A hexadecimal digit below sixteen. -/
def hexDigit (n : Nat) : Char :=
  if n < 10 then Char.ofNat ('0'.toNat + n) else Char.ofNat ('a'.toNat + (n - 10))

/-- A character of a quoted text. -/
def escapedChar (c : Char) : List Char :=
  if c = '"' then ['\\', '"']
  else if c = '\\' then ['\\', '\\']
  else if c.toNat < 0x20 then
    if c.toNat = 0x08 then ['\\', 'b']
    else if c.toNat = 0x0C then ['\\', 'f']
    else if c = '\n' then ['\\', 'n']
    else if c = '\r' then ['\\', 'r']
    else if c = '\t' then ['\\', 't']
    else ['\\', 'u', '0', '0', hexDigit (c.toNat / 16), hexDigit (c.toNat % 16)]
  else [c]

/-- A text between quotes. -/
def quote (s : String) : List Char :=
  '"' :: s.toList.flatMap escapedChar ++ ['"']

mutual

/-- The compact text of a value. -/
def compact : Json → List Char
  | null => "null".toList
  | bool true => "true".toList
  | bool false => "false".toList
  | number n => n.text.toList
  | string s => quote s
  | list items => '[' :: compactItems items ++ [']']
  | object members => '\x7b' :: compactMembers members ++ ['\x7d']

/-- Items between commas. -/
def compactItems : List Json → List Char
  | [] => []
  | [item] => compact item
  | item :: rest => compact item ++ ',' :: compactItems rest

/-- Members between commas. -/
def compactMembers : List (String × Json) → List Char
  | [] => []
  | [(key, value)] => quote key ++ ':' :: compact value
  | (key, value) :: rest => quote key ++ ':' :: compact value ++ ',' :: compactMembers rest

end

/-- The compact text of a value. -/
def text (value : Json) : String := String.ofList value.compact

/-- A new line indented to a depth. -/
def newLine (depth : Nat) : List Char := '\n' :: List.replicate (2 * depth) ' '

mutual

/-- The indented text of a value that stands at a depth. -/
def indented (depth : Nat) : Json → List Char
  | list (item :: rest) =>
    '[' :: newLine (depth + 1) ++ indented (depth + 1) item ++ indentedItems (depth + 1) rest ++
      newLine depth ++ [']']
  | object ((key, value) :: rest) =>
    '\x7b' :: newLine (depth + 1) ++ quote key ++ ": ".toList ++ indented (depth + 1) value ++
      indentedMembers (depth + 1) rest ++ newLine depth ++ ['\x7d']
  | value => compact value

/-- The items after the first. -/
def indentedItems (depth : Nat) : List Json → List Char
  | [] => []
  | item :: rest => ',' :: newLine depth ++ indented depth item ++ indentedItems depth rest

/-- The members after the first. -/
def indentedMembers (depth : Nat) : List (String × Json) → List Char
  | [] => []
  | (key, value) :: rest =>
    ',' :: newLine depth ++ quote key ++ ": ".toList ++ indented depth value ++
      indentedMembers depth rest

end

/-- The indented text of a value. -/
def prettyText (value : Json) : String := String.ofList (value.indented 0)

end TypedQuery.Json
