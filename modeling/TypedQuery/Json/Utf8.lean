import TypedQuery.Json.Token

/-!
# Sources from bytes

Bytes are decoded as UTF-8 one at a time. Overlong forms, surrogates and code points beyond U+10FFFF
are no characters: the second byte of a character has a range of its own that leaves them out. Bytes
that turn out to begin no character are strays.
-/

namespace TypedQuery.Json

/-- Where a decoder stands between two bytes. -/
inductive Utf8State where
  | between
  /-- Inside a character: the number of bytes that are missing, the range of the next one, the value
  of those read, and their number. -/
  | inside (missing low high value read : Nat)

/-- The first byte of a character: what it completes, and where decoding goes on. -/
def utf8Lead (byte : Nat) : Source × Utf8State :=
  if byte < 0x80 then ([some (Char.ofNat byte)], .between)
  else if 0xC2 ≤ byte ∧ byte ≤ 0xDF then ([], .inside 1 0x80 0xBF (byte - 0xC0) 1)
  else if byte = 0xE0 then ([], .inside 2 0xA0 0xBF 0x0 1)
  else if byte = 0xED then ([], .inside 2 0x80 0x9F 0xD 1)
  else if 0xE1 ≤ byte ∧ byte ≤ 0xEF then ([], .inside 2 0x80 0xBF (byte - 0xE0) 1)
  else if byte = 0xF0 then ([], .inside 3 0x90 0xBF 0x0 1)
  else if 0xF1 ≤ byte ∧ byte ≤ 0xF3 then ([], .inside 3 0x80 0xBF (byte - 0xF0) 1)
  else if byte = 0xF4 then ([], .inside 3 0x80 0x8F 0x4 1)
  else ([none], .between)

/-- What one byte does. A byte that does not go on with a character makes strays of those before it
and is read again as a first byte. -/
def utf8Step (state : Utf8State) (byte : Nat) : Source × Utf8State :=
  match state with
  | .between => utf8Lead byte
  | .inside missing low high value read =>
    if low ≤ byte ∧ byte ≤ high then
      let value := value * 64 + (byte - 0x80)
      if missing ≤ 1 then ([some (Char.ofNat value)], .between)
      else ([], .inside (missing - 1) 0x80 0xBF value (read + 1))
    else
      let next := utf8Lead byte
      (List.replicate read none ++ next.1, next.2)

/-- Decodes bytes from a state on. -/
def utf8From (state : Utf8State) : List UInt8 → Source
  | [] =>
    match state with
    | .between => []
    | .inside _ _ _ _ read => List.replicate read none
  | byte :: rest =>
    let next := utf8Step state byte.toNat
    next.1 ++ utf8From next.2 rest

/-- The source of a text that comes as bytes. -/
def Source.ofBytes (bytes : List UInt8) : Source := utf8From .between bytes

end TypedQuery.Json
