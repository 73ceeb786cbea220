import TypedQuery.CommandLine.Path
import TypedQuery.Table

/-!
# Directories in memory

A directory is given by the files in it, each under its path from there. A path is followed segment
by segment: each but the last must be a directory, and so must the last if a slash or a dot follows
it. Neither a path nor a segment may be longer than a system allows.

Outside the directory little is known: the directories above it are there, and from the root on a
system has `/tmp`, `/dev`, and the empty file `/dev/null`.
-/

namespace TypedQuery

/-- Why a file cannot be read. -/
inductive FileError where
  | notFound
  | notADirectory
  | isADirectory
  | nameTooLong
  | notUtf8
  /-- Any other error of the system, by its code. -/
  | system (code : Nat) (description : String)
deriving DecidableEq, Repr

/-- The wording of a file error. -/
def FileError.message : FileError → String
  | notFound => "No such file or directory (os error 2)"
  | notADirectory => "Not a directory (os error 20)"
  | isADirectory => "Is a directory (os error 21)"
  | nameTooLong => "File name too long (os error 36)"
  | notUtf8 => "stream did not contain valid UTF-8"
  | system code description => description ++ " (os error " ++ toString code ++ ")"

/-- A place that a path leads to. Segments are kept with the last one first. -/
inductive Place where
  /-- In the directory, by the segments from there. -/
  | inside (segments : List String)
  /-- A directory above, of which nothing else is known. -/
  | above
  /-- A place by the segments from the root of the system. -/
  | system (segments : List String)
deriving DecidableEq, Repr

namespace Place

/-- The directory that holds a place. Nothing lies above the root. -/
def parent : Place → Place
  | inside [] => above
  | inside (_ :: outer) => inside outer
  | above => above
  | system segments => system segments.tail

/-- The place of a name in a directory. -/
def child? (name : String) : Place → Option Place
  | inside segments => some (inside (name :: segments))
  | above => none
  | system segments => some (system (name :: segments))

end Place

/-- The files of a directory, each with the segments of its path and its content. -/
structure Directory where
  files : List (List String × String)

namespace Directory

/-- The directory with files under the given paths. -/
def ofFiles (files : Table String) : Directory where
  files := files.map fun (path, content) => (Path.segments path, content)

/-- The content of the file at a place. -/
def file? (directory : Directory) : Place → Option String
  | .inside segments => directory.files.lookup segments.reverse
  | .above => none
  | .system segments => if segments.reverse = ["dev", "null"] then some "" else none

/-- Whether a place is a directory. -/
def isDirectory (directory : Directory) : Place → Bool
  | .inside segments =>
    let path := segments.reverse
    path.isEmpty || directory.files.any fun (file, _) =>
      path.isPrefixOf file && path.length < file.length
  | .above => true
  | .system segments => [[], ["tmp"], ["dev"]].contains segments.reverse

/-- Whether there is anything at a place. -/
def has (directory : Directory) (place : Place) : Bool :=
  (directory.file? place).isSome || directory.isDirectory place

/-- The greatest number of bytes of a segment. -/
def maxSegmentLength : Nat := 255

/-- The greatest number of bytes of a path. -/
def maxPathLength : Nat := 4095

/-- Follows segments from a place on. -/
def follow (directory : Directory) (place : Place) : List String → Except FileError Place
  | [] => .ok place
  | segment :: rest =>
    if !directory.isDirectory place then .error .notADirectory
    else if segment = "" ∨ segment = "." then follow directory place rest
    else if segment = ".." then follow directory place.parent rest
    else if segment.utf8ByteSize > maxSegmentLength then .error .nameTooLong
    else
      match place.child? segment with
      | some next => if directory.has next then follow directory next rest else .error .notFound
      | none => .error .notFound

/-- Reads the file at a path. -/
def read (directory : Directory) (path : String) : Except FileError String :=
  if path = "" then .error .notFound
  else if path.utf8ByteSize > maxPathLength then .error .nameTooLong
  else do
    let start := if path.startsWith "/" then Place.system [] else .inside []
    let place ← directory.follow start (path.splitOn "/")
    match directory.file? place with
    | some content => return content
    | none => .error .isADirectory

end Directory

end TypedQuery
