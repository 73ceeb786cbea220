import TypedQuery.CommandLine.Run

/-!
# The program

Reads the arguments, the environment and the files, runs the command, and prints what it leaves.
Colours are on when they are forced, and otherwise when the output is a terminal and nothing forbids
them.
-/

namespace TypedQuery

/-- The file error that an error of the system stands for. -/
def fileError (error : IO.Error) : FileError :=
  match error with
  | .noFileOrDirectory .. => .notFound
  | .inappropriateType _ code _ => if code == 21 then .isADirectory else .notADirectory
  | .invalidArgument _ code details =>
    if code == 36 then .nameTooLong else .system code.toNat details
  | .permissionDenied _ code _ => .system code.toNat "Permission denied"
  | error => .system 5 (toString error)

/-- Reads a file as UTF-8 text. -/
def readText (path : String) : IO (Except FileError String) := do
  try
    let bytes ← IO.FS.readBinFile path
    return match String.fromUTF8? bytes with
      | some text => .ok text
      | none => .error .notUtf8
  catch error => return .error (fileError error)

/-- Whether a variable of the environment is set to anything but `0`. -/
def isSwitchedOn (name : String) : IO (Option Bool) := do
  return (← IO.getEnv name).map (· != "0")

/-- Whether colours are on. -/
def wantsColor : IO Bool := do
  if (← isSwitchedOn "CLICOLOR_FORCE") == some true then return true
  if (← isSwitchedOn "NO_COLOR").isSome then return false
  return (← isSwitchedOn "CLICOLOR").getD true && (← (← IO.getStdout).isTty)

/-- The files that an invocation reads. -/
def Invocation.files (invocation : Invocation) : List String :=
  invocation.schema ::
    match invocation.command with
    | .compile path _ | .decode path => [path]
    | .describe _ => []

end TypedQuery

open TypedQuery in
/-- Runs the program. -/
def main (words : List String) : IO UInt32 := do
  let color ← wantsColor
  let paths := match Arguments.parse words with
    | .ok invocation => invocation.files
    | .error _ => []
  let contents ← paths.mapM fun path => do return (path, ← readText path)
  let read : FileReader := fun path => (contents.lookup path).getD (.error .notFound)
  let outcome := CommandLine.run read color words
  IO.print outcome.out
  IO.eprint outcome.err
  return outcome.code.toUInt32
