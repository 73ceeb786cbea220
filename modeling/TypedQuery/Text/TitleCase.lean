import TypedQuery.Text.Alphabetic
import TypedQuery.Text.LetterCase

/-!
# Title case

A word is a longest run of alphabetic characters. Title case writes the first character of each
word in upper case and the others in lower case, so `book_item` becomes `Book_Item` and `BookItem`
becomes `Bookitem`.
-/

namespace TypedQuery.Text

/-- The title case of characters that follow a letter (`inWord`) or do not. -/
def titleCaseFrom (inWord : Bool) : List Char → List Char
  | [] => []
  | c :: rest =>
    if isAlphabetic c then
      (if inWord then lowerCase c else upperCase c) ++ titleCaseFrom true rest
    else c :: titleCaseFrom false rest

/-- The title case of a name. -/
def titleCase (name : String) : String :=
  String.ofList (titleCaseFrom false name.toList)

end TypedQuery.Text
