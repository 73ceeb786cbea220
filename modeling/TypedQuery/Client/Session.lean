import TypedQuery.Client.Exchange

/-!
# Calls against a transport

A client hands every request to a transport and takes up its next call when the reply is there. A
transport may do whatever it likes with the requests that it received, so its reply is any function
of them.

A call fails without undoing what it sent: its error says how it ended, and the transport keeps the
request.
-/

namespace TypedQuery

/-- What delivers requests: those that it received, the first one first, and what it replies to the
last of them. -/
structure Transport where
  received : List Request := []
  answer : List Request → Reply

/-- A computation that may send requests and may fail. -/
abbrev Sending := ExceptT ClientError (StateM Transport)

/-- Hands over a request and waits for the reply. -/
def Transport.send (request : Request) : StateM Transport Reply := do
  modify fun transport => { transport with received := transport.received ++ [request] }
  let transport ← get
  return transport.answer transport.received

/-- A call of a client. -/
inductive Call where
  | query (selections : List Selection) (fragments : List Fragment)
  | mutate (selections : List Selection) (fragments : List Fragment)
  /-- The document is already written. -/
  | execute (document : String)

namespace Client

/-- Sends a document and decodes the reply. -/
def sendDocument (client : Client) (document : String) : Sending Results := do
  let reply ← Transport.send (client.request document)
  MonadExcept.ofExcept (client.outcome reply)

/-- Writes a selection and sends it. -/
def sendSelection (client : Client) (operation : OperationType) (selections : List Selection)
    (fragments : List Fragment) : Sending Results := do
  let document ← MonadExcept.ofExcept
    ((Query.document operation selections fragments).mapError .query)
  client.sendDocument document

/-- Performs a call. -/
def perform (client : Client) : Call → Sending Results
  | .query selections fragments => client.sendSelection .query selections fragments
  | .mutate selections fragments => client.sendSelection .mutation selections fragments
  | .execute document => client.sendDocument document

/-- Performs calls one after the other, whatever becomes of each. -/
def session (client : Client) (calls : List Call) :
    StateM Transport (List (Except ClientError Results)) :=
  calls.mapM fun call => (client.perform call).run

end Client

end TypedQuery
