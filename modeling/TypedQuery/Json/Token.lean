import TypedQuery.Json.Basic
import TypedQuery.Json.Fault
import TypedQuery.Number.Literal

/-!
# Tokens of a JSON text

A text is read one character at a time by an automaton whose states say what has been read of the
current token. A token that goes wrong becomes a broken token, and reading stops there; whether the
fault it carries is the one to report is for whoever reads the tokens.

## Texts

A text comes as characters or as bytes. A byte that is part of no UTF-8 character stands in the text
as `none`: outside a string it is a character that fits nowhere, and a string that holds one is
refused where it closes.

## Escapes

The four digits after `\u` must be there before any of them is looked at, counted in bytes; a high
surrogate must be followed at once by the escape of a low one.
-/

namespace TypedQuery.Json

/-- A text as its characters; a byte outside every UTF-8 character is `none`. -/
abbrev Source := List (Option Char)

/-- The source of a text. -/
def Source.ofString (s : String) : Source := s.toList.map some

/-- The number of bytes of a character in a source. -/
def glyphSize : Option Char → Nat
  | some c => c.utf8Size
  | none => 1

/-- The smallest parts of a JSON text. -/
inductive Token where
  | openList
  | closeList
  | openObject
  | closeObject
  | comma
  | colon
  | null
  | bool (value : Bool)
  | number (value : Number)
  | string (value : String)
  /-- A text between quotes that went wrong. -/
  | brokenString (fault : Fault)
  /-- Any other token that went wrong. -/
  | broken (fault : Fault)
deriving DecidableEq, Repr

/-- Where a reader stands inside a text between quotes. -/
inductive StringState where
  | plain
  /-- After a backslash. -/
  | escape
  /-- Inside the digits of an escape: the high surrogate before it, if any, the number of digits
  that are missing and the value of those read. -/
  | digits (high : Option Nat) (missing : Nat) (value : Nat)
  /-- After a high surrogate, before a backslash. -/
  | pairSlash (high : Nat)
  /-- After a high surrogate and a backslash, before `u`. -/
  | pairMark (high : Nat)
deriving DecidableEq, Repr

/-- Where a reader stands inside a number. -/
inductive NumberState where
  /-- After the minus sign. -/
  | sign
  /-- After a leading zero. -/
  | zero
  | whole
  /-- After the point. -/
  | point
  | fraction
  /-- After `e`. -/
  | exponentMark
  /-- After the sign of the exponent. -/
  | exponentSign
  | exponent
deriving DecidableEq, Repr

/-- Where a reader stands in a text. -/
inductive Reading where
  /-- Between tokens. -/
  | between
  /-- Inside a word: the next letter, those after it, and what the word means. -/
  | word (next : Char) (others : List Char) (token : Token)
  /-- Inside a number; the digits of each part are kept last first. -/
  | number (state : NumberState) (literal : Literal)
  /-- Inside a string: its characters so far, last first, and whether they include a stray byte. -/
  | string (state : StringState) (read : List Char) (stray : Bool)
  /-- After a broken token. -/
  | stopped

/-- The value of a digit. -/
def digit? (c : Char) : Option Nat :=
  if c.isDigit then some (c.toNat - '0'.toNat) else none

/-- The value of a hexadecimal digit. -/
def hexDigit? (c : Char) : Option Nat :=
  if c.isDigit then some (c.toNat - '0'.toNat)
  else if 'a' ≤ c ∧ c ≤ 'f' then some (c.toNat - 'a'.toNat + 10)
  else if 'A' ≤ c ∧ c ≤ 'F' then some (c.toNat - 'A'.toNat + 10)
  else none

/-- Whether a character may stand between tokens. -/
def isSpace (c : Char) : Bool := c == ' ' || c == '\n' || c == '\t' || c == '\r'

/-! ## Numbers -/

/-- The token of a finished number. Its digits were collected last first. -/
def numberToken (l : Literal) : Token :=
  let ordered : Literal := { l with
    whole := l.whole.reverse
    fraction := l.fraction.reverse
    exponent := l.exponent.map fun (negative, digits) => (negative, digits.reverse) }
  match ordered.value? with
  | some n => .number n
  | none => .broken .numberOutOfRange

/-- What a character does inside a number: it goes on with it, ends it, or breaks it. -/
inductive NumberStep where
  | more (state : NumberState) (literal : Literal)
  | done
  | wrong

/-- The number after one more character. -/
def numberStep (state : NumberState) (l : Literal) (c : Char) : NumberStep :=
  let isMark := c == 'e' || c == 'E'
  let addWhole (d : Nat) : Literal := { l with whole := d :: l.whole }
  let addFraction (d : Nat) : Literal := { l with fraction := d :: l.fraction }
  let addExponent (d : Nat) : Literal :=
    { l with exponent := l.exponent.map fun (negative, digits) => (negative, d :: digits) }
  let mark : NumberStep := .more .exponentMark { l with exponent := some (false, []) }
  let point : NumberStep := .more .point { l with hasPoint := true }
  match state, digit? c with
  | .sign, some 0 => .more .zero (addWhole 0)
  | .sign, some d => .more .whole (addWhole d)
  | .sign, none => .wrong
  | .zero, some _ => .wrong
  | .whole, some d => .more .whole (addWhole d)
  | .zero, none | .whole, none => if c == '.' then point else if isMark then mark else .done
  | .point, some d | .fraction, some d => .more .fraction (addFraction d)
  | .point, none => .wrong
  | .fraction, none => if isMark then mark else .done
  | .exponentMark, some d | .exponentSign, some d | .exponent, some d =>
    .more .exponent (addExponent d)
  | .exponentMark, none =>
    if c == '+' then .more .exponentSign l
    else if c == '-' then .more .exponentSign { l with exponent := some (true, []) }
    else .wrong
  | .exponentSign, none => .wrong
  | .exponent, none => .done

/-- Whether a number may end in a state. -/
def NumberState.mayEnd : NumberState → Bool
  | zero | whole | fraction | exponent => true
  | _ => false

/-! ## Strings -/

/-- The token of a string that closes. -/
def stringToken (read : List Char) (stray : Bool) : Token :=
  if stray then .brokenString .invalidCodePoint else .string (String.ofList read.reverse)

/-- What one character after a backslash stands for. -/
def simpleEscape? : Char → Option Char
  | '"' => some '"'
  | '\\' => some '\\'
  | '/' => some '/'
  | 'b' => some '\x08'
  | 'f' => some '\x0c'
  | 'n' => some '\n'
  | 'r' => some '\r'
  | 't' => some '\t'
  | _ => none

/-- What a character does inside a string: it goes on with it, closes it, or breaks it. -/
inductive StringStep where
  | more (state : StringState) (read : List Char) (stray : Bool)
  | close
  | wrong (fault : Fault)

/-- The string after the last digit of an escape. -/
def escapeStep (high : Option Nat) (value : Nat) (read : List Char) (stray : Bool) : StringStep :=
  let isHigh := 0xD800 ≤ value && value ≤ 0xDBFF
  let isLow := 0xDC00 ≤ value && value ≤ 0xDFFF
  match high with
  | some h =>
    if isLow then
      .more .plain (Char.ofNat ((h - 0xD800) * 0x400 + (value - 0xDC00) + 0x10000) :: read) stray
    else .wrong .loneSurrogate
  | none =>
    if isLow then .wrong .loneSurrogate
    else if isHigh then .more (.pairSlash value) read stray
    else .more .plain (Char.ofNat value :: read) stray

/-- Whether the four digits of an escape can follow, counted in bytes. -/
def hasFourBytes (rest : Source) : Bool :=
  4 ≤ ((rest.take 4).map glyphSize).foldl (· + ·) 0

/-- The string after one more character; `rest` is the text after it. -/
def stringStep (state : StringState) (read : List Char) (stray : Bool) (glyph : Option Char)
    (rest : Source) : StringStep :=
  match state, glyph with
  | .plain, none => .more .plain read true
  | .plain, some c =>
    if c = '"' then .close
    else if c = '\\' then .more .escape read stray
    else if c.toNat < 0x20 then .wrong .controlCharacter
    else .more .plain (c :: read) stray
  | .escape, none => .wrong .invalidEscape
  | .escape, some c =>
    match simpleEscape? c with
    | some image => .more .plain (image :: read) stray
    | none =>
      if c ≠ 'u' then .wrong .invalidEscape
      else if hasFourBytes rest then .more (.digits none 4 0) read stray
      else .wrong .endInString
  | .digits high missing value, glyph =>
    match glyph.bind hexDigit? with
    | none => .wrong .invalidEscape
    | some d =>
      if missing ≤ 1 then escapeStep high (value * 16 + d) read stray
      else .more (.digits high (missing - 1) (value * 16 + d)) read stray
  | .pairSlash high, glyph =>
    if glyph = some '\\' then .more (.pairMark high) read stray else .wrong .endOfHexEscape
  | .pairMark high, glyph =>
    if glyph ≠ some 'u' then .wrong .endOfHexEscape
    else if hasFourBytes rest then .more (.digits (some high) 4 0) read stray
    else .wrong .endInString

/-! ## The automaton -/

/-- What a character does between tokens: the tokens it completes, and where reading goes on. -/
def startStep (glyph : Option Char) : List Token × Reading :=
  match glyph with
  | none => ([.broken .valueExpected], .stopped)
  | some c =>
    if isSpace c then ([], .between)
    else match c with
      | '[' => ([.openList], .between)
      | ']' => ([.closeList], .between)
      | '\x7b' => ([.openObject], .between)
      | '\x7d' => ([.closeObject], .between)
      | ',' => ([.comma], .between)
      | ':' => ([.colon], .between)
      | '"' => ([], .string .plain [] false)
      | 'n' => ([], .word 'u' ['l', 'l'] .null)
      | 't' => ([], .word 'r' ['u', 'e'] (.bool true))
      | 'f' => ([], .word 'a' ['l', 's', 'e'] (.bool false))
      | '-' => ([], .number .sign { negative := true, whole := [] })
      | c =>
        match numberStep .sign { negative := false, whole := [] } c with
        | .more state l => ([], .number state l)
        | _ => ([.broken .valueExpected], .stopped)

/-- What a character does in any state. A character that ends a number is read again between
tokens. -/
def readStep (reading : Reading) (glyph : Option Char) (rest : Source) : List Token × Reading :=
  match reading with
  | .between => startStep glyph
  | .word letter others token =>
    if glyph ≠ some letter then ([.broken .wordExpected], .stopped)
    else match others with
      | [] => ([token], .between)
      | letter :: others => ([], .word letter others token)
  | .number state l =>
    let step : NumberStep :=
      match glyph with
      | some c => numberStep state l c
      | none => if state.mayEnd then .done else .wrong
    match step with
    | .more state l => ([], .number state l)
    | .wrong => ([.broken .invalidNumber], .stopped)
    | .done =>
      match numberToken l with
      | .broken fault => ([.broken fault], .stopped)
      | token =>
        let next := startStep glyph
        (token :: next.1, next.2)
  | .string state read stray =>
    match stringStep state read stray glyph rest with
    | .more state read stray => ([], .string state read stray)
    | .wrong fault => ([.brokenString fault], .stopped)
    | .close =>
      match stringToken read stray with
      | .string s => ([.string s], .between)
      | token => ([token], .stopped)
  | .stopped => ([], .stopped)

/-- The tokens that the end of the text completes. -/
def readEnd : Reading → List Token
  | .between | .stopped => []
  | .word _ _ _ => [.broken .endInValue]
  | .number state l => [if state.mayEnd then numberToken l else .broken .endInValue]
  | .string _ _ _ => [.brokenString .endInString]

/-- The tokens of a text from some state on. -/
def tokensFrom (reading : Reading) : Source → List Token
  | [] => readEnd reading
  | glyph :: rest =>
    let next := readStep reading glyph rest
    next.1 ++ tokensFrom next.2 rest

/-- The tokens of a text, up to the first broken one. -/
def tokens (source : Source) : List Token := tokensFrom .between source

end TypedQuery.Json
