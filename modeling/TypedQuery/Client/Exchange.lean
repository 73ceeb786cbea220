import TypedQuery.Client.Endpoint
import TypedQuery.Client.Header
import TypedQuery.Client.Status
import TypedQuery.Json.Utf8
import TypedQuery.Query.Text
import TypedQuery.Response.Decode

/-!
# Exchanges with a server

A client sends each document as one request and decodes the reply. It has no network of its own: an
exchange says what request goes out, and what the reply to it means. A document that cannot be
written sends nothing.

The outcome depends on the reply alone: a reply that did not arrive, a body that is not JSON, or
whatever decoding the body gives, whatever its status.
-/

namespace TypedQuery

/-- What a transport answers to a request. -/
inductive Reply where
  | response (status : Nat) (body : List UInt8)
  /-- The request was not delivered. -/
  | failure (reason : String)

/-- A request. -/
structure Request where
  method : String
  endpoint : Endpoint
  /-- The header fields, by name in lower case. -/
  headers : Table String
  body : String

/-- Why an exchange fails. -/
inductive ClientError where
  | invalidEndpoint (text : String) (error : EndpointError)
  | invalidHeader (name : String) (error : HeaderError)
  | query (error : QueryError)
  | transport (reason : String)
  | invalidBody (status : Nat) (fault : Json.Fault)
  | decode (error : DecodeError)

/-- The wording of a client error. -/
def ClientError.message : ClientError → String
  | invalidEndpoint text error => "Invalid URL '" ++ text ++ "': '" ++ error.message ++ "'"
  | invalidHeader name error => "Invalid header '" ++ name ++ "': '" ++ error.message ++ "'"
  | query error => "Failed to build the query document: '" ++ error.message ++ "'"
  | transport reason => "Transport failed: '" ++ reason ++ "'"
  | invalidBody status fault =>
    "Server answered with status " ++ statusText status ++ " and a body that is not JSON: '" ++
      fault.message ++ "'"
  | decode error => error.message

/-- A client of one endpoint and one registry. -/
structure Client where
  endpoint : Endpoint
  /-- The header fields sent with every request, in the order in which they were added. -/
  headers : List (String × String) := []
  registry : Registry

namespace Client

/-- A client of an endpoint given as text. -/
def new (url : String) (registry : Registry) : Except ClientError Client := do
  let endpoint ← (Endpoint.parse url).mapError (.invalidEndpoint url)
  return { endpoint, registry }

/-- Adds a header field. -/
def addHeader (client : Client) (name value : String) : Except ClientError Client := do
  let field ← (Header.parse name value).mapError (.invalidHeader name)
  return { client with headers := client.headers ++ [field] }

/-- Adds header fields one after the other, each given by its name and its value. -/
def addHeaders (client : Client) (given : List (String × String)) : Except ClientError Client :=
  given.foldlM (fun client field => client.addHeader field.1 field.2) client

/-- The media type of requests and of the replies that are wanted. -/
def mediaType : String := "application/json"

/-- The request that sends a document. Of several header fields with one name the last counts. -/
def request (client : Client) (document : String) : Request where
  method := "POST"
  endpoint := client.endpoint
  headers := Table.ofWrites ([("content-type", mediaType), ("accept", mediaType)] ++ client.headers)
  body := (Json.object [("query", .string document)]).text

/-- What a reply means. -/
def outcome (client : Client) : Reply → Except ClientError Results
  | .failure reason => .error (.transport reason)
  | .response status body => do
    let payload ← (Json.parse (some Json.documentDepth) (Json.Source.ofBytes body)).mapError
      (.invalidBody status)
    (client.registry.decode payload).mapError .decode

/-- Sends a document that is already written. -/
def execute (client : Client) (document : String) (reply : Reply) :
    Request × Except ClientError Results :=
  (client.request document, client.outcome reply)

/-- Writes a selection and sends it, if it has a text. -/
def run (client : Client) (operation : OperationType) (selections : List Selection)
    (fragments : List Fragment) (reply : Reply) : Option Request × Except ClientError Results :=
  match Query.document operation selections fragments with
  | .ok document => (some (client.request document), client.outcome reply)
  | .error error => (none, .error (.query error))

end Client

end TypedQuery
