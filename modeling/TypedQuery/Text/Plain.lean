/-!
# Text without terminal sequences

A message on a terminal is shown without the sequences that would steer it: escape sequences and
control strings are left out, and of the control characters only the blanks stay. A blank inside a
sequence that is not a control string ends it. A sequence that does not end takes what follows it
along.

## Characters beyond ASCII

A sequence is read by bytes. A character beyond ASCII means nothing to most of them, but the byte
`9C` ends a control string, also where it is one byte of a longer character.
-/

namespace TypedQuery.Text

/-- Where a reader stands in a text with terminal sequences. -/
inductive TerminalState where
  | ground
  /-- After the escape character. -/
  | escape
  /-- In an escape sequence with intermediate characters. -/
  | intermediate
  /-- In a control sequence, which a letter or a mark like one ends. -/
  | control
  /-- In a system command, which the bell ends. -/
  | command
  /-- At the beginning of a device control string. -/
  | device
  /-- In the parameters of a device control string. -/
  | deviceParameter
  /-- In a device control string after an intermediate character. -/
  | deviceIntermediate
  /-- In the body of a control string. -/
  | body
deriving DecidableEq, Repr

/-- Whether a control character is kept: the blanks among them. -/
def isKeptControl (c : Char) : Bool :=
  c == '\t' || c == '\n' || c == '\x0c' || c == '\r'

/-- Whether a code point lies between two others. -/
def isBetween (first last n : Nat) : Bool := first ≤ n && n ≤ last

/-- The state after a character that follows the escape character. -/
def escapeNext (c : Char) : TerminalState :=
  if c = '[' then .control
  else if c = ']' then .command
  else if c = 'P' then .device
  else if c = 'X' ∨ c = '^' ∨ c = '_' then .body
  else if isBetween 0x20 0x2F c.toNat then .intermediate
  else if isBetween 0x30 0x7E c.toNat then .ground
  else .escape

/-- The state after a character of a device control string before its body. -/
def deviceNext (state : TerminalState) (c : Char) : TerminalState :=
  let n := c.toNat
  if isBetween 0x20 0x2F n then .deviceIntermediate
  else if isBetween 0x40 0x7E n then .body
  else if isBetween 0x30 0x3F n then
    match state with
    | .device => .deviceParameter
    | .deviceParameter => if isBetween 0x3C 0x3F n then .body else .deviceParameter
    | _ => .body
  else state

/-- Whether a character has a byte that ends the body of a control string. -/
def endsBody (c : Char) : Bool := (String.utf8EncodeChar c).contains 0x9C

/-- The state after a character that is not shown, neither escape nor cancel. -/
def terminalNext (state : TerminalState) (c : Char) : TerminalState :=
  let n := c.toNat
  match state with
  | .ground => .ground
  | .escape => escapeNext c
  | .intermediate => if isBetween 0x30 0x7E n then .ground else .intermediate
  | .control => if isBetween 0x40 0x7E n then .ground else .control
  | .command => if n = 0x07 then .ground else .command
  | .device | .deviceParameter | .deviceIntermediate => deviceNext state c
  | .body => if endsBody c then .ground else .body

/-- Whether a character is shown in a state. -/
def isShown (state : TerminalState) (c : Char) : Bool :=
  match state with
  | .ground => if c.toNat < 0x20 then isKeptControl c else c.toNat ≠ 0x7F
  | .escape | .intermediate | .control => isKeptControl c
  | _ => false

/-- The characters that are shown, from a state on. -/
def plainFrom (state : TerminalState) : List Char → List Char
  | [] => []
  | c :: rest =>
    if isShown state c then c :: plainFrom .ground rest
    else if c = '\x1b' then plainFrom .escape rest
    else if c = '\x18' ∨ c = '\x1a' then plainFrom .ground rest
    else plainFrom (terminalNext state c) rest

/-- A text without terminal sequences. -/
def plain (s : String) : String := String.ofList (plainFrom .ground s.toList)

/-- The first line of a text, without its line break. -/
def firstLine (s : String) : String :=
  let line := s.toList.takeWhile (· ≠ '\n')
  let ended := line.length < s.length
  String.ofList (if ended && line.getLast? = some '\r' then line.dropLast else line)

end TypedQuery.Text
