/-!
# Paths

A path is a text of segments between slashes. Empty segments and `.` segments count for nothing, so
a path may end in a slash and still name a file. The extension of a file name follows its last dot,
unless that dot begins the name; the name of the parent directory has none.
-/

namespace TypedQuery.Path

/-- The segments of a path, as they are written between slashes. -/
def segments (path : String) : List String :=
  (path.splitOn "/").filter fun segment => segment ≠ "" && segment ≠ "."

/-- The name of the file that a path ends in. -/
def fileName? (path : String) : Option String :=
  match (segments path).getLast? with
  | some name => if name = ".." then none else some name
  | none => none

/-- The extension of a file name. -/
def extensionOf? (name : String) : Option String :=
  let reversed := name.toList.reverse
  match reversed.dropWhile (· ≠ '.') with
  | '.' :: _ :: _ => some (String.ofList (reversed.takeWhile (· ≠ '.')).reverse)
  | _ => none

/-- The extension of the file that a path ends in. -/
def extension? (path : String) : Option String := (fileName? path).bind extensionOf?

/-- Whether a path names a JSON document, by its extension in any case. -/
def isJson (path : String) : Bool :=
  match extension? path with
  | some ext => ext.toLower == "json"
  | none => false

end TypedQuery.Path
