import Mathlib.Tactic.SplitIfs
import TypedQuery.Json.Token
import TypedQuery.Query.Text

/-!
# String literals

A string literal of the query language runs from a quote to the next quote that no backslash
escapes. Inside it stand characters other than line terminators, and escapes: a backslash with a
letter, or with `u` and four hexadecimal digits.

What is written for a value reads as this value, wherever the literal stands
(`readLiteral_escaped`): the escapes of JSON are among those of the query language, and what JSON
writes as it is may stand there as it is.
-/

namespace TypedQuery.Query

/-- The characters that end a line. -/
def IsLineTerminator (c : Char) : Prop := c = '\n' ∨ c = '\r'

instance (c : Char) : Decidable (IsLineTerminator c) := inferInstanceAs (Decidable (_ ∨ _))

/-- The character that a backslash and one character stand for. -/
def escape? : Char → Option Char
  | '"' => some '"'
  | '\\' => some '\\'
  | '/' => some '/'
  | 'b' => some '\x08'
  | 'f' => some '\x0c'
  | 'n' => some '\n'
  | 'r' => some '\r'
  | 't' => some '\t'
  | _ => none

/-- The character with a code of four hexadecimal digits. Half of a surrogate pair is none. -/
def coded? (a b c d : Char) : Option Char := do
  let code :=
    (((← Json.hexDigit? a) * 16 + (← Json.hexDigit? b)) * 16 + (← Json.hexDigit? c)) * 16 +
      (← Json.hexDigit? d)
  if code.isValidChar then some (Char.ofNat code) else none

/-- What is read when one more character stands in front. -/
def prepend (c : Char) (read : Option (List Char × List Char)) : Option (List Char × List Char) :=
  read.map fun (value, rest) => (c :: value, rest)

/-- Reads a string literal from behind its opening quote: the value, and what follows the closing
quote. -/
def readLiteral : List Char → Option (List Char × List Char)
  | [] => none
  | '"' :: rest => some ([], rest)
  | '\\' :: 'u' :: a :: b :: c :: d :: rest =>
    (coded? a b c d).bind (prepend · (readLiteral rest))
  | '\\' :: c :: rest => (escape? c).bind (prepend · (readLiteral rest))
  | c :: rest => if IsLineTerminator c then none else prepend c (readLiteral rest)

/-- The value of the text between the quotes of a literal. -/
def unescape (body : List Char) : Option String :=
  match readLiteral (body ++ ['"']) with
  | some (value, []) => some (String.ofList value)
  | _ => none

/-- The text between the quotes of the literal of a value. -/
def literalBody (value : String) : List Char := value.toList.flatMap Json.escapedChar

/-- A literal is its body between quotes. -/
theorem toList_literal (value : String) :
    (literal value).toList = '"' :: (literalBody value ++ ['"']) := by
  rw [literal, String.toList_ofList, Json.quote, literalBody, List.cons_append]

/-! ## One character -/

/-- The ways to write a character: as it is, or escaped. -/
inductive Writes (c : Char) : List Char → Prop
  | plain (noQuote : c ≠ '"') (noBackslash : c ≠ '\\') (printed : 0x20 ≤ c.toNat) : Writes c [c]
  | short {letter : Char} (h : escape? letter = some c) : Writes c ['\\', letter]
  | long {first second : Char} (hfirst : (Json.hexDigit? first).isSome)
      (hsecond : (Json.hexDigit? second).isSome) (h : coded? '0' '0' first second = some c) :
      Writes c ['\\', 'u', '0', '0', first, second]

/-- A control character is written by number. -/
theorem coded?_hexDigit : ∀ n < 0x20,
    (Json.hexDigit? (Json.hexDigit (n / 16))).isSome ∧
      (Json.hexDigit? (Json.hexDigit (n % 16))).isSome ∧
      coded? '0' '0' (Json.hexDigit (n / 16)) (Json.hexDigit (n % 16)) = some (Char.ofNat n) := by
  decide

/-- What is written for a character stands for it. -/
theorem writes_escapedChar (c : Char) : Writes c (Json.escapedChar c) := by
  have hcode : ∀ n, c.toNat = n → Char.ofNat n = c := fun n h => h ▸ Char.ofNat_toNat c
  rw [Json.escapedChar]
  -- Seven characters have a letter of their own, other control characters are written by number,
  -- and what is left stands for itself.
  split_ifs with hquote hbackslash hcontrol hbackspace hfeed hnewline hreturn htab
  · exact .short (by rw [hquote]; rfl)
  · exact .short (by rw [hbackslash]; rfl)
  · exact .short (by rw [← hcode _ hbackspace]; rfl)
  · exact .short (by rw [← hcode _ hfeed]; rfl)
  · exact .short (by rw [hnewline]; rfl)
  · exact .short (by rw [hreturn]; rfl)
  · exact .short (by rw [htab]; rfl)
  · obtain ⟨hfirst, hsecond, h⟩ := coded?_hexDigit _ hcontrol
    exact .long hfirst hsecond (by rw [h, Char.ofNat_toNat])
  · exact .plain hquote hbackslash (by omega)

/-! ## Whole values -/

/-- However a character is written, it is read in front of what follows. -/
theorem readLiteral_append_of_writes {c : Char} {written : List Char} (h : Writes c written)
    (rest : List Char) : readLiteral (written ++ rest) = prepend c (readLiteral rest) := by
  cases h with
  | plain noQuote noBackslash printed =>
    have hline : ¬ IsLineTerminator c := by
      rintro (rfl | rfl) <;> exact absurd printed (by decide)
    simp [readLiteral, noBackslash, hline]
  | @short letter h =>
    have hletter : letter ≠ 'u' := by
      rintro rfl
      cases h
    simp [readLiteral, hletter, h]
  | long hfirst hsecond h => simp [readLiteral, h]

/-- The literal of a value reads as the value. -/
theorem readLiteral_escaped (value : String) (rest : List Char) :
    readLiteral (literalBody value ++ '"' :: rest) = some (value.toList, rest) := by
  rw [literalBody]
  induction value.toList with
  | nil => rfl
  | cons c value ih =>
    rw [List.flatMap_cons, List.append_assoc, readLiteral_append_of_writes (writes_escapedChar c),
      ih]
    rfl

/-- The text between the quotes of a literal stands for the value. -/
theorem unescape_literalBody (value : String) : unescape (literalBody value) = some value := by
  rw [unescape, readLiteral_escaped]
  simp

end TypedQuery.Query
