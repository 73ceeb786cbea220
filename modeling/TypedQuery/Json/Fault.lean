/-!
# Faults of a JSON text

A fault says why a text stops being JSON at some point. Its category tells whether the text ended
too soon or holds something that cannot stand where it is.
-/

namespace TypedQuery.Json

/-- Why a text is not JSON. -/
inductive Fault where
  | endInList
  | endInObject
  | endInString
  | endInValue
  | colonExpected
  | listCommaOrEndExpected
  | objectCommaOrEndExpected
  | wordExpected
  | valueExpected
  | invalidEscape
  | invalidNumber
  | numberOutOfRange
  | invalidCodePoint
  | controlCharacter
  | keyNotString
  | loneSurrogate
  | trailingComma
  | trailingCharacters
  | endOfHexEscape
  | tooDeep
deriving DecidableEq, Repr

/-- What kind of problem a text has for its reader. -/
inductive Category where
  /-- The text is not JSON. -/
  | syntactic
  /-- The text ends too soon. -/
  | ended
  /-- The text is JSON so far, of the wrong shape. -/
  | data
deriving DecidableEq, Repr

/-- The name of a category. -/
def Category.name : Category → String
  | syntactic => "syntax"
  | ended => "eof"
  | data => "data"

namespace Fault

/-- The category of a fault. -/
def category : Fault → Category
  | endInList | endInObject | endInString | endInValue => .ended
  | _ => .syntactic

/-- The wording of a fault. -/
def message : Fault → String
  | endInList => "EOF while parsing a list"
  | endInObject => "EOF while parsing an object"
  | endInString => "EOF while parsing a string"
  | endInValue => "EOF while parsing a value"
  | colonExpected => "expected `:`"
  | listCommaOrEndExpected => "expected `,` or `]`"
  | objectCommaOrEndExpected => "expected `,` or `\x7d`"
  | wordExpected => "expected ident"
  | valueExpected => "expected value"
  | invalidEscape => "invalid escape"
  | invalidNumber => "invalid number"
  | numberOutOfRange => "number out of range"
  | invalidCodePoint => "invalid unicode code point"
  | controlCharacter => "control character (\\u0000-\\u001F) found while parsing a string"
  | keyNotString => "key must be a string"
  | loneSurrogate => "lone leading surrogate in hex escape"
  | trailingComma => "trailing comma"
  | trailingCharacters => "trailing characters"
  | endOfHexEscape => "unexpected end of hex escape"
  | tooDeep => "recursion limit exceeded"

end Fault

end TypedQuery.Json
