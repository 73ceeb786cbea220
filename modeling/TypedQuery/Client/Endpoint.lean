/-!
# Endpoints

An endpoint is a URI in one of four forms: absolute (`https://host/path?query`), a path, an
authority alone, or `*`. A fragment is checked for nothing and dropped, and an absolute URI without
a path has the path `/`. A known scheme is written in lower case; everything else is kept as it was
given.

Characters beyond ASCII may stand in a path or a query, as they are or in percent form.
-/

namespace TypedQuery

/-- Why a text is no endpoint. -/
inductive EndpointError where
  | empty
  | tooLong
  | schemeTooLong
  | invalidCharacter
  | invalidAuthority
  | invalidFormat
deriving DecidableEq, Repr

/-- The wording of an endpoint error. -/
def EndpointError.message : EndpointError → String
  | empty => "empty string"
  | tooLong => "uri too long"
  | schemeTooLong => "scheme too long"
  | invalidCharacter => "invalid uri character"
  | invalidAuthority => "invalid authority"
  | invalidFormat => "invalid format"

/-- Where requests go. -/
structure Endpoint where
  scheme : Option String := none
  authority : String := ""
  /-- The path and the query, empty if there is neither. -/
  target : String := ""
deriving DecidableEq, Repr, Inhabited

namespace Endpoint

/-- The text of an endpoint. -/
def text (endpoint : Endpoint) : String :=
  match endpoint.scheme with
  | none => endpoint.authority ++ endpoint.target
  | some scheme =>
    let slash := if endpoint.target.startsWith "/" then "" else "/"
    scheme ++ "://" ++ endpoint.authority ++ slash ++ endpoint.target

/-- The greatest number of bytes. -/
def maxLength : Nat := 65534

/-- The greatest number of characters of a scheme. -/
def maxSchemeLength : Nat := 64

/-- Whether a character may stand in a scheme. -/
def isSchemeChar (c : Char) : Bool :=
  c.isAlphanum || c == '+' || c == '-' || c == '.' || c == '~'

/-- Whether a character may stand in an authority. -/
def isAuthorityChar (c : Char) : Bool :=
  c.isAlphanum || "!$&'()*+,-.:;=@[]_~".toList.contains c

/-- Whether a character may stand in a path as it is. -/
def isPathChar (c : Char) : Bool :=
  let n := c.toNat
  n == 0x21 || n == 0x22 || (0x24 ≤ n && n ≤ 0x3B) || n == 0x3D || (0x40 ≤ n && n ≤ 0x5F) ||
    (0x61 ≤ n && n ≤ 0x7E) || 0x80 ≤ n

/-- Whether a character may stand in a query as it is. -/
def isQueryChar (c : Char) : Bool :=
  let n := c.toNat
  n == 0x21 || (0x24 ≤ n && n ≤ 0x3B) || n == 0x3D || (0x3F ≤ n && n ≠ 0x7F)

/-- Splits off the scheme of a text, if it has one before `://`. -/
def splitScheme (cs : List Char) : Except EndpointError (Option String × List Char) :=
  let name := cs.takeWhile isSchemeChar
  match cs.dropWhile isSchemeChar with
  | ':' :: '/' :: '/' :: rest =>
    let lower := (String.ofList name).toLower
    if lower = "http" ∨ lower = "https" then .ok (some lower, rest)
    else if cs.length ≤ 3 then .ok (none, cs)
    else if name.length > maxSchemeLength then .error .schemeTooLong
    else .ok (some (String.ofList name), rest)
  | _ => .ok (none, cs)

/-- What is known of an authority while it is read. Colons and percent signs before an `@` or inside
brackets belong to a user or to a numeric address, and are forgotten. -/
structure AuthorityScan where
  colons : Nat := 0
  opened : Bool := false
  closed : Bool := false
  percent : Bool := false
  /-- Whether the last character was an `@`. -/
  endsWithAt : Bool := false

/-- The greatest number of colons that are looked at. -/
def maxColons : Nat := 8

/-- The authority after one more character. -/
def AuthorityScan.step (scan : AuthorityScan) (c : Char) : Except EndpointError AuthorityScan :=
  let scan := { scan with endsWithAt := c == '@' }
  match c with
  | ':' =>
    if scan.colons ≥ maxColons then .error .invalidAuthority
    else .ok { scan with colons := scan.colons + 1 }
  | '[' =>
    if scan.percent || scan.opened then .error .invalidAuthority
    else .ok { scan with opened := true }
  | ']' =>
    if !scan.opened || scan.closed then .error .invalidAuthority
    else .ok { scan with closed := true, colons := 0, percent := false }
  | '@' => .ok { scan with colons := 0, percent := false }
  | '%' => .ok { scan with percent := true }
  | c => if isAuthorityChar c then .ok scan else .error .invalidCharacter

/-- Whether an authority may end as it does. -/
def AuthorityScan.acceptable (scan : AuthorityScan) : Bool :=
  scan.opened == scan.closed && scan.colons ≤ 1 && !scan.endsWithAt && !scan.percent

/-- Whether a character ends an authority. -/
def endsAuthority (c : Char) : Bool := c == '/' || c == '?' || c == '#'

/-- Splits off the authority of a text. -/
def splitAuthority (cs : List Char) : Except EndpointError (List Char × List Char) := do
  let authority := cs.takeWhile (!endsAuthority ·)
  let scan ← authority.foldlM AuthorityScan.step {}
  if scan.acceptable then return (authority, cs.dropWhile (!endsAuthority ·))
  else .error .invalidAuthority

/-- The path and the query of a text, up to its fragment. -/
def readTarget (inQuery : Bool) : List Char → Except EndpointError (List Char)
  | [] => .ok []
  | c :: rest =>
    if c = '#' then .ok []
    else if c = '?' ∧ !inQuery then do return c :: (← readTarget true rest)
    else if if inQuery then isQueryChar c else isPathChar c then do
      return c :: (← readTarget inQuery rest)
    else .error .invalidCharacter

/-- Reads a text that is neither a path nor a single character. Something must follow a scheme. -/
def ofChars (cs : List Char) : Except EndpointError Endpoint := do
  let (scheme, rest) ← splitScheme cs
  if rest.isEmpty then .error .empty
  let (authority, rest) ← splitAuthority rest
  match scheme with
  | none =>
    if rest.isEmpty then return { authority := String.ofList authority }
    else .error .invalidFormat
  | some scheme =>
    if authority.isEmpty then .error .invalidFormat
    else
      let target ← readTarget false rest
      return {
        scheme := some scheme
        authority := String.ofList authority
        target := String.ofList target }

/-- Reads an endpoint. -/
def parse (s : String) : Except EndpointError Endpoint :=
  if s.utf8ByteSize > maxLength then .error .tooLong
  else
    match s.toList with
    | [] => .error .empty
    | ['*'] => .ok { target := "*" }
    | '/' :: rest => do return { target := String.ofList (← readTarget false ('/' :: rest)) }
    | [c] =>
      if endsAuthority c then .error .invalidCharacter else ofChars [c]
    | cs => ofChars cs

end Endpoint

end TypedQuery
