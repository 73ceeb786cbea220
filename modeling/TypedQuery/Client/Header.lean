/-!
# Header fields

The name of a header field is a token: letters, digits and fifteen marks, and it is kept in lower
case. A value holds anything but control characters, the tab excepted.
-/

namespace TypedQuery

/-- Why a header field is refused. -/
inductive HeaderError where
  | invalidName
  | invalidValue
deriving DecidableEq, Repr

/-- The wording of a header error. -/
def HeaderError.message : HeaderError → String
  | invalidName => "invalid HTTP header name"
  | invalidValue => "failed to parse header value"

namespace Header

/-- The greatest length of a name. -/
def maxNameLength : Nat := 65535

/-- Whether a character may stand in a name. -/
def isNameChar (c : Char) : Bool :=
  c.isAlphanum || "!#$%&'*+-.^_`|~".toList.contains c

/-- Whether a character may stand in a value. -/
def isValueChar (c : Char) : Bool :=
  c == '\t' || (0x20 ≤ c.toNat && c.toNat ≠ 0x7F)

/-- Reads the name and the value of a header field, the name first. -/
def parse (name value : String) : Except HeaderError (String × String) :=
  if name.isEmpty || name.length > maxNameLength || !name.toList.all isNameChar then
    .error .invalidName
  else if !value.toList.all isValueChar then .error .invalidValue
  else .ok (name.toLower, value)

end Header

end TypedQuery
