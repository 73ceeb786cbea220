import TypedQuery.CommandLine.Path
import TypedQuery.Text.Blank
import TypedQuery.Text.Plain

/-!
# Arguments of the command line

The arguments choose a command and its options. An option is written `--name value`, `--name=value`,
`-nvalue` or `-n value`; the schema option may stand before the command or after it, and the one
after it counts. After `--` nothing is an option any more.

## When a value is looked at

A value that is attached to its option is checked at once. A value in an argument of its own waits
until the next option that is known, the next positional argument or the end; an argument that
nobody knows is reported before it. An option is reported before its value if it was given already.
-/

namespace TypedQuery

/-- What the program is asked to do. -/
inductive Command where
  | compile (selection : String) (mutation : Bool)
  | decode (payload : String)
  | describe (typeName : Option String)
deriving DecidableEq, Repr

/-- A command and the schema document that it works with. -/
structure Invocation where
  schema : String
  command : Command
deriving DecidableEq, Repr

/-- Why arguments give no command. -/
inductive UsageError where
  /-- A value that its argument refuses. -/
  | refusedValue (value argument reason : String)
  | missingValue
  | missingArgument
  | unknownArgument
  | unknownCommand
  | missingCommand
  /-- An option that is given twice. -/
  | repeatedArgument
  /-- A value for an option that takes none. -/
  | needlessValue
  | help
  /-- No arguments at all. -/
  | helpForNothing
  | version
deriving DecidableEq, Repr

/-- A part of a message that a terminal shows in a style. -/
def emphasized (s : String) : String := "\x1b[1m" ++ s ++ "\x1b[0m"

/-- The whole message of a refused value, as a terminal gets it. -/
def refusalText (value argument reason : String) : String :=
  emphasized "error:" ++ " invalid value '" ++ emphasized value ++ "' for '" ++
    emphasized argument ++ "': " ++ reason ++
    "\n\nFor more information, try '" ++ emphasized "--help" ++ "'.\n"

/-- The first line that is shown for a refused value. Terminal sequences that the value holds are
left out with those of the message, so an unfinished one may take parts of the message along. -/
def UsageError.headline : UsageError → Option String
  | refusedValue value argument reason =>
    some (Text.firstLine (Text.plain (refusalText value argument reason)))
  | _ => none

namespace Arguments

/-- The arguments that some command takes. -/
inductive Name where
  | schema
  | selection
  | payload
  | typeName
  | mutation
  | help
  | version
deriving DecidableEq, Repr

/-- The places where arguments are read. -/
inductive Level where
  | root
  | compile
  | decode
  | describe
deriving DecidableEq, Repr

/-- The command with a name. -/
def Level.ofName? : String → Option Level
  | "compile" => some .compile
  | "decode" => some .decode
  | "describe" => some .describe
  | _ => none

/-- Whether a word names a command, the one that shows help included. -/
def isCommandName (word : String) : Bool := word == "help" || (Level.ofName? word).isSome

/-- The option with a long name. -/
def Level.long? (level : Level) : String → Option Name
  | "schema" => some .schema
  | "help" => some .help
  | "selection" => if level = .compile then some .selection else none
  | "mutation" => if level = .compile then some .mutation else none
  | "payload" => if level = .decode then some .payload else none
  | "version" => if level = .root then some .version else none
  | _ => none

/-- The option with a short name. -/
def Level.short? (level : Level) : Char → Option Name
  | 's' => some .schema
  | 'h' => some .help
  | 'V' => if level = .root then some .version else none
  | _ => none

/-- Whether an argument takes a value. -/
def Name.takesValue : Name → Bool
  | .schema | .selection | .payload | .typeName => true
  | .mutation | .help | .version => false

/-- The arguments whose values were accepted. -/
structure Given where
  schema : Option String := none
  selection : Option String := none
  payload : Option String := none
  typeName : Option String := none
  mutation : Bool := false

/-- What was read at one level. -/
structure Progress where
  given : Given := {}
  /-- The argument whose value was not looked at yet, with the value if it is there. -/
  pending : Option (Name × Option String) := none
  /-- Whether `--` was read. -/
  trailing : Bool := false
  /-- Whether the positional argument was read. -/
  positional : Bool := false

/-- Whether the next word is the value of an option. -/
def Progress.awaitsValue (progress : Progress) : Bool :=
  match progress.pending with
  | some (_, none) => true
  | _ => false

/-- Checks the path of a document. -/
def checkDocument (argument path : String) : Except UsageError String :=
  if Path.isJson path then .ok path
  else .error <| .refusedValue path argument
    ("Invalid document path: '" ++ path ++ "'. Expected a .json file")

/-- Checks the name of a type. -/
def checkTypeName (name : String) : Except UsageError String :=
  let trimmed := Text.trimmed name
  if trimmed.isEmpty then
    .error (.refusedValue name "[TYPE_NAME]" "Type name cannot be empty")
  else .ok trimmed

/-- Checks the path of a schema document. -/
def checkSchema (path : String) : Except UsageError String :=
  if path.isEmpty then .error .missingValue else .ok path

/-- Refuses an argument that was given already. -/
def refuseRepeated {α : Type} (earlier : Option α) : Except UsageError Unit :=
  if earlier.isSome then .error .repeatedArgument else .ok ()

/-- Accepts an argument with its value. -/
def accept (given : Given) (name : Name) (value : Option String) : Except UsageError Given :=
  match name, value with
  | .help, _ => .error .help
  | .version, _ => .error .version
  | .mutation, _ =>
    if given.mutation then .error .repeatedArgument else .ok { given with mutation := true }
  | _, none => .error .missingValue
  | .schema, some value => do
    refuseRepeated given.schema
    return { given with schema := some (← checkSchema value) }
  | .selection, some value => do
    refuseRepeated given.selection
    return { given with selection := some (← checkDocument "--selection <SELECTION>" value) }
  | .payload, some value => do
    refuseRepeated given.payload
    return { given with payload := some (← checkDocument "--payload <PAYLOAD>" value) }
  | .typeName, some value => do
    refuseRepeated given.typeName
    return { given with typeName := some (← checkTypeName value) }

/-- Accepts the argument that waits. -/
def settle (progress : Progress) : Except UsageError Progress :=
  match progress.pending with
  | none => .ok progress
  | some (name, value) => do
    return { progress with given := ← accept progress.given name value, pending := none }

/-- Reads an option with the value that is attached to it, if any. -/
def readOption (progress : Progress) (name : Name) (attached : Option String) :
    Except UsageError Progress := do
  let progress ← settle progress
  if name.takesValue && attached.isNone then
    return { progress with pending := some (name, none) }
  else return { progress with given := ← accept progress.given name attached }

/-- Reads a word after two dashes. -/
def readLong (level : Level) (progress : Progress) (word : List Char) :
    Except UsageError Progress :=
  let name := String.ofList (word.takeWhile (· ≠ '='))
  let attached :=
    match word.dropWhile (· ≠ '=') with
    | '=' :: value => some (String.ofList value)
    | _ => none
  match level.long? name with
  | none => .error .unknownArgument
  | some name =>
    if !name.takesValue && attached.isSome then .error .needlessValue
    else readOption progress name attached

/-- Reads a letter after one dash, and what follows it. -/
def readShort (level : Level) (progress : Progress) (letter : Char) (rest : List Char) :
    Except UsageError Progress :=
  match level.short? letter with
  | none => .error .unknownArgument
  | some name =>
    let attached :=
      match rest with
      | [] => none
      | '=' :: value => some (String.ofList value)
      | value => some (String.ofList value)
    readOption progress name (if name.takesValue then attached else none)

/-- Reads a word that is no option. -/
def readPositional (level : Level) (progress : Progress) (word : String) :
    Except UsageError Progress :=
  match level with
  | .root =>
    if progress.trailing && isCommandName word then .error .unknownArgument
    else .error .unknownCommand
  | .describe =>
    if progress.positional then .error .unknownArgument
    else do
      let progress ← settle progress
      return { progress with pending := some (.typeName, some word), positional := true }
  | .compile | .decode => .error .unknownArgument

/-- Reads one word. -/
def readWord (level : Level) (progress : Progress) (word : String) :
    Except UsageError Progress :=
  if progress.trailing then readPositional level progress word
  else
    match word.toList with
    | ['-', '-'] => .ok { progress with trailing := true }
    | '-' :: '-' :: rest => readLong level progress rest
    | '-' :: letter :: rest => readShort level progress letter rest
    | _ =>
      match progress.pending with
      | some (name, none) => .ok { progress with pending := some (name, some word) }
      | _ => readPositional level progress word

/-- The command that a level's arguments make. -/
def commandOf (level : Level) (given : Given) : Except UsageError Command :=
  match level with
  | .compile =>
    match given.selection with
    | some selection => .ok (.compile selection given.mutation)
    | none => .error .missingArgument
  | .decode =>
    match given.payload with
    | some payload => .ok (.decode payload)
    | none => .error .missingArgument
  | .describe => .ok (.describe given.typeName)
  | .root => .error .missingCommand

/-- Reads the words after a command. -/
def readCommand (level : Level) (words : List String) :
    Except UsageError (Command × Option String) := do
  let progress ← words.foldlM (readWord level) {}
  let progress ← settle progress
  return (← commandOf level progress.given, progress.given.schema)

/-- What the words after `help` ask for. No command has commands of its own. -/
def helpFor : List String → UsageError
  | [] => .help
  | [word] => if isCommandName word then .help else .unknownCommand
  | _ => .unknownCommand

/-- The schema document where no option names one. -/
def defaultSchema : String := "schema.json"

/-- Reads words from the beginning, up to the command and then on. -/
def readRoot (progress : Progress) : List String → Except UsageError Invocation
  | [] => do
    let progress ← settle progress
    if progress.given.schema.isSome then .error .missingCommand else .error .helpForNothing
  | word :: rest =>
    let mayBeCommand := !progress.trailing && !progress.awaitsValue
    if mayBeCommand && word == "help" then .error (helpFor rest)
    else
      match if mayBeCommand then Level.ofName? word else none with
      | some level => do
        let (command, schema) ← readCommand level rest
        let progress ← settle progress
        let schema := (schema <|> progress.given.schema).getD defaultSchema
        return { schema, command }
      | none => do readRoot (← readWord .root progress word) rest

/-- Reads the arguments of the program. -/
def parse (words : List String) : Except UsageError Invocation := readRoot {} words

end Arguments

end TypedQuery
