import TypedQuery.CommandLine.Arguments
import TypedQuery.CommandLine.Directory
import TypedQuery.Display.Describe
import TypedQuery.Display.Report
import TypedQuery.Query.Resolve
import TypedQuery.Response.Decode
import TypedQuery.Schema.Document

/-!
# Running a command

A command loads its schema document first, and then reads what it needs besides. Results go to the
standard output, errors to the standard error with exit code 1, and wrong arguments give exit code
2.
-/

namespace TypedQuery

/-- What a run of the program leaves. -/
structure Outcome where
  code : Nat
  out : String := ""
  err : String := ""
deriving DecidableEq, Repr

/-- How files are read. -/
abbrev FileReader := String → Except FileError String

namespace CommandLine

/-- The name and version of the program. -/
def versionText : String := "greff 0.3.0\n"

/-- How the program is used. -/
def helpText : String := String.join [
  "Declarative GraphQL query builder\n\n",
  "Usage: greff [OPTIONS] <COMMAND>\n\n",
  "Commands:\n",
  "  compile   Compile a selection document into query text\n",
  "  decode    Decode a captured GraphQL response into typed instances\n",
  "  describe  Describe the declared types\n",
  "  help      Print this message or the help of the given subcommand(s)\n\n",
  "Options:\n",
  "  -s, --schema <SCHEMA>  Path to the JSON schema document declaring the types\n",
  "  -h, --help             Print help\n",
  "  -V, --version          Print version\n"]

/-- What is shown for wrong arguments. -/
def usageMessage : UsageError → String
  | .missingValue => "error: a value is required for an argument\n"
  | .missingArgument => "error: the following required arguments were not provided\n"
  | .unknownArgument => "error: unexpected argument found\n"
  | .unknownCommand => "error: unrecognized subcommand\n"
  | .missingCommand => "error: a subcommand is required but was not provided\n"
  | .repeatedArgument => "error: an argument cannot be used multiple times\n"
  | .needlessValue => "error: unexpected value found; no more were expected\n"
  | .helpForNothing => helpText
  | error => (error.headline.getD "error") ++ "\n"

/-- The outcome of wrong arguments. A demand for help or the version is none. -/
def usageOutcome : UsageError → Outcome
  | .help => { code := 0, out := helpText }
  | .version => { code := 0, out := versionText }
  | error => { code := 2, err := usageMessage error }

/-- The outcome of a command that has a result. -/
def shown (text : String) : Outcome := { code := 0, out := Report.framed text ++ "\n" }

/-- The outcome of a command that fails. -/
def failed (text : String) : Outcome := { code := 1, err := Report.framed text ++ "\n" }

/-- Reads a file whose use is given for the message. -/
def readFile (read : FileReader) (use path : String) : Except (List String) String :=
  (read path).mapError fun error =>
    ["Failed to read " ++ use ++ " '" ++ path ++ "'", error.message]

/-- The causes of a document error, from the outermost inwards. -/
def documentCauses (error : DocumentError) : List String :=
  match error with
  | .unreadable cause => [error.message, cause.message]
  | .refused _ cause => [error.message, cause.message]

/-- The registry of a schema document. -/
def loadRegistry (read : FileReader) (path : String) : Except (List String) Registry := do
  let source ← readFile read "schema document" path
  (SchemaDocument.ofText source >>= SchemaDocument.load).mapError fun error =>
    ("Failed to load schema document '" ++ path ++ "'") :: documentCauses error

/-- The selections and fragments of a selection document. -/
def loadSelection (read : FileReader) (registry : Registry) (path : String) :
    Except (List String) (List Selection × List Fragment) := do
  let source ← readFile read "selection document" path
  let document ← (SelectionDocument.ofText source).mapError fun error =>
    ["Invalid selection document", error.message]
  (registry.resolve document).mapError fun error => [error.message]

/-- The value of a payload. -/
def loadPayload (read : FileReader) (path : String) : Except (List String) Json := do
  let source ← readFile read "payload" path
  (Json.parse (some Json.documentDepth) (Json.Source.ofString source)).mapError fun fault =>
    ["Payload '" ++ path ++ "' is not valid JSON", fault.message]

/-- The outcome of a command once the registry is there. -/
def runCommand (read : FileReader) (color : Bool) (registry : Registry) :
    Command → Except (List String) Outcome
  | .compile path mutation => do
    let (selections, fragments) ← loadSelection read registry path
    let operation := if mutation then OperationType.mutation else .query
    match Query.document operation selections fragments with
    | .ok document => return shown document
    | .error error => return failed (Report.queryError color error)
  | .decode path => do
    let payload ← loadPayload read path
    match registry.decode payload with
    | .ok results => return shown (Report.results color results)
    | .error error => return failed (Report.decodeError color error)
  | .describe none => return shown (registry.describeTypes color)
  | .describe (some name) =>
    match registry.type? name with
    | some type => return shown (registry.describeType color type)
    | none => .error ["Type '" ++ name ++ "' is not declared"]

/-- The outcome of an invocation. -/
def runInvocation (read : FileReader) (color : Bool) (invocation : Invocation) : Outcome :=
  let outcome := do
    let registry ← loadRegistry read invocation.schema
    runCommand read color registry invocation.command
  match outcome with
  | .ok outcome => outcome
  | .error causes => failed (Report.failure color causes)

/-- Runs the program. -/
def run (read : FileReader) (color : Bool) (words : List String) : Outcome :=
  match Arguments.parse words with
  | .ok invocation => runInvocation read color invocation
  | .error error => usageOutcome error

end CommandLine

end TypedQuery
