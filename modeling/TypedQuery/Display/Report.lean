import TypedQuery.Display.Style
import TypedQuery.Query.Text
import TypedQuery.Response.Decode

/-!
# Reports

What a command shows: results as indented JSON, and errors under a heading that says what failed.
Every report stands between line breaks.
-/

namespace TypedQuery.Report

/-- A report between line breaks. -/
def framed (text : String) : String := "\n" ++ text ++ "\n"

/-- An error under a heading. -/
def headed (color : Bool) (heading message : String) : String :=
  Style.boldRed.paint color heading ++ "\n\n'" ++ message ++ "'"

/-- Decoded results: under every root the list of its instances. -/
def results (color : Bool) (decoded : Results) : String :=
  if decoded.isEmpty then Style.yellow.paint color "No data returned."
  else
    let groups := decoded.groups.map fun (root, instances) =>
      (root, Json.list (instances.map Instance.toJson))
    (Json.object (Table.ofWrites groups)).prettyText

/-- A general error, given as its causes from the outermost inwards. -/
def failure (color : Bool) (causes : List String) : String :=
  headed color "Error:" (": ".intercalate causes)

/-- A selection that has no text. -/
def queryError (color : Bool) (error : QueryError) : String :=
  headed color "Invalid Selection:" error.message

/-- The line of a remote error, with the places that it refers to. -/
def remoteError (color : Bool) (error : RemoteError) : String :=
  let place (location : Location) : String :=
    " " ++ Style.dimmed.paint color
      ("(" ++ toString location.line ++ ":" ++ toString location.column ++ ")")
  "\n  - " ++ error.message ++ String.join (error.locations.map place)

/-- A reply that could not be decoded. -/
def decodeError (color : Bool) : DecodeError → String
  | .remoteOperationFailed errors =>
    Style.boldRed.paint color "Remote Operation Failed:" ++ "\n" ++
      String.join (errors.map (remoteError color))
  | error => headed color "Decode Failed:" error.message

end TypedQuery.Report
