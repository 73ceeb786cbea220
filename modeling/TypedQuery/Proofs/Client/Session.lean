import TypedQuery.Client.Session
import TypedQuery.Proofs.Checked
import TypedQuery.Proofs.Json.ReadBack
import TypedQuery.Proofs.Table

/-!
# What a client sends and what its calls give

A call whose document can be written sends one request, and a call whose document cannot be written
sends none. A request brings its document, and only that, to the endpoint of the client; of the
header fields that were given under one name it has the last (`Client.request_carries`). Whatever a
transport replies, a call ends as the reply to its own request says (`Settles`).

## What carries the proof

A call against a transport is an exchange with the reply that the transport gives to its request
(`Client.perform_run`). So a session is a row of exchanges, each after the requests of the calls
before it, and what it sends and gives follows by induction on the calls.
-/

namespace TypedQuery

open Checked

/-! ## Header fields -/

/-- A value is the last of those that were given under one name; the case of the letters of a name
does not count, and `name` has lower case. -/
def GivenLast (given : List (String × String)) (name value : String) : Prop :=
  ∃ before field after, given = before ++ (field, value) :: after ∧ field.toLower = name ∧
    ∀ later ∈ after, later.1.toLower ≠ name

/-- A header field that is accepted has the given value under the given name in lower case. -/
theorem Header.eq_of_parse {name value : String} {field : String × String}
    (h : Header.parse name value = .ok field) : field = (name.toLower, value) := by
  rw [Header.parse] at h
  split at h
  · cases h
  · split at h
    · cases h
    · exact (Except.ok.inj h).symm

/-- Header fields that are written one after the other leave, under each name in lower case, the
value that was given last. -/
theorem mem_ofWrites_toLower_iff {given : List (String × String)} {name value : String} :
    (name, value) ∈ Table.ofWrites (given.map fun field => (field.1.toLower, field.2)) ↔
      GivenLast given name value := by
  have hkeys : ∀ after : List (String × String),
      name ∉ Table.keys (after.map fun field => (field.1.toLower, field.2)) ↔
        ∀ later ∈ after, later.1.toLower ≠ name := by
    simp [Table.keys]
  -- The last write under a key is known. What is left is to go back from the lowered names to the
  -- given ones, before and after it.
  rw [Table.mem_ofWrites_iff]
  constructor
  · rintro ⟨before, after, h, hafter⟩
    obtain ⟨before, rest, rfl, rfl, hrest⟩ := List.map_eq_append_iff.mp h
    obtain ⟨⟨field, _⟩, after, rfl, hfield, rfl⟩ := List.map_eq_cons_iff.mp hrest
    cases hfield
    exact ⟨before, field, after, rfl, rfl, (hkeys after).mp hafter⟩
  · rintro ⟨before, field, after, rfl, rfl, hafter⟩
    exact ⟨_, _, by rw [List.map_append, List.map_cons], (hkeys after).mpr hafter⟩

namespace Client

variable {client : Client}

/-- A header field that is added goes behind the others, with its name in lower case. -/
theorem eq_of_addHeader {name value : String} {next : Client}
    (h : client.addHeader name value = .ok next) :
    next = { client with headers := client.headers ++ [(name.toLower, value)] } := by
  obtain ⟨field, hfield, hnext⟩ := bind_eq_ok.mp h
  cases hnext
  rw [Header.eq_of_parse (mapError_eq_ok.mp hfield)]

/-- A client with header fields that were given one after the other. -/
theorem eq_of_addHeaders {given : List (String × String)} {next : Client}
    (h : client.addHeaders given = .ok next) :
    next = { client with
      headers := client.headers ++ given.map fun field => (field.1.toLower, field.2) } := by
  induction given generalizing client with
  | nil =>
    cases h
    simp
  | cons field given ih =>
    rw [addHeaders, List.foldlM_cons] at h
    obtain ⟨first, hfirst, h⟩ := bind_eq_ok.mp h
    rw [ih h, eq_of_addHeader hfirst]
    simp

end Client

/-- The header fields that a request has unless others are given. -/
def defaultFields : List (String × String) :=
  [("content-type", "application/json"), ("accept", "application/json")]

/-- A request brings a document to an endpoint under header fields that were given. -/
structure Request.Carries (request : Request) (document : String) (endpoint : Endpoint)
    (given : List (String × String)) : Prop where
  method : request.method = "POST"
  endpoint : request.endpoint = endpoint
  /-- The body is read as an object with the document alone. -/
  body : Json.parse (some Json.documentDepth) (Json.Source.ofBytes (Json.utf8 request.body)) =
    .ok (.object [("query", .string document)])
  /-- No name has two values. -/
  distinct : request.headers.keys.Nodup
  /-- Every name has the value that was given last. -/
  headers : ∀ {name value : String}, (name, value) ∈ request.headers ↔
    GivenLast (defaultFields ++ given) name value

/-- The request for a document carries this document to the endpoint of the client, under the header
fields that the client was given and its defaults. -/
theorem Client.request_carries {client : Client} {given : List (String × String)}
    (h : client.headers = given.map fun field => (field.1.toLower, field.2)) (document : String) :
    (client.request document).Carries document client.endpoint given where
  method := rfl
  endpoint := rfl
  body := by
    rw [Json.ofBytes_utf8]
    exact Json.parse_member "query" document
  distinct := Table.nodup_keys_ofWrites _
  headers {name value} := by
    -- The defaults have lower case already, so they can be taken for fields that were given first.
    have hdefault : defaultFields.map (fun field => (field.1.toLower, field.2)) =
        defaultFields := by
      decide +kernel
    rw [← mem_ofWrites_toLower_iff, List.map_append, ← h, hdefault]
    rfl

/-! ## One call -/

/-- The document of a call, if its selection can be written. -/
def Call.document : Call → Except QueryError String
  | .query selections fragments => Query.document .query selections fragments
  | .mutate selections fragments => Query.document .mutation selections fragments
  | .execute document => .ok document

/-- What a call gives, in view of its document and of the reply to its request. -/
inductive Settles (registry : Registry) (reply : Reply) :
    Except QueryError String → Except ClientError Results → Prop
  /-- The selection cannot be written. -/
  | refused {error : QueryError} : Settles registry reply (.error error) (.error (.query error))
  /-- The transport failed. -/
  | undelivered {document reason : String} (h : reply = .failure reason) :
      Settles registry reply (.ok document) (.error (.transport reason))
  /-- The body of the reply is not JSON. -/
  | notJson {document : String} {status : Nat} {body : List UInt8} {fault : Json.Fault}
      (h : reply = .response status body)
      (unread : Json.parse (some Json.documentDepth) (Json.Source.ofBytes body) = .error fault) :
      Settles registry reply (.ok document) (.error (.invalidBody status fault))
  /-- The body is decoded, whatever the status is. -/
  | decoded {document : String} {status : Nat} {body : List UInt8} {payload : Json}
      (h : reply = .response status body)
      (read : Json.parse (some Json.documentDepth) (Json.Source.ofBytes body) = .ok payload) :
      Settles registry reply (.ok document) ((registry.decode payload).mapError .decode)

/-- A document and a reply settle a call in one way. -/
theorem Settles.unique {registry : Registry} {reply : Reply} {document : Except QueryError String}
    {a b : Except ClientError Results} (ha : Settles registry reply document a)
    (hb : Settles registry reply document b) : a = b := by
  -- Two rules for one reply differ in what its body reads as.
  cases ha <;> cases hb <;> simp_all

namespace Client

variable {client : Client} {reply : Reply}

/-- The request of a call, if it has a document. -/
def sent (client : Client) (call : Call) : Option Request :=
  call.document.toOption.map client.request

/-- What a call sends and gives, for a reply to its request. -/
def exchange (client : Client) (reply : Reply) :
    Call → Option Request × Except ClientError Results
  | .query selections fragments => client.run .query selections fragments reply
  | .mutate selections fragments => client.run .mutation selections fragments reply
  | .execute document => (client.execute document reply).map some id

/-- A call with a document is an exchange for this document, and a call without one sends
nothing. -/
theorem exchange_eq (call : Call) :
    client.exchange reply call =
      match call.document with
      | .ok document => (client.execute document reply).map some id
      | .error error => (none, .error (.query error)) := by
  cases call <;> rfl

/-- What a call sends does not depend on the reply. -/
theorem exchange_fst (call : Call) : (client.exchange reply call).1 = client.sent call := by
  rw [exchange_eq, sent]
  cases call.document <;> rfl

/-- An exchange ends as the document of the call and the reply say. -/
theorem settles_exchange (call : Call) :
    Settles client.registry reply call.document (client.exchange reply call).2 := by
  rw [exchange_eq]
  cases call.document with
  | error error => exact .refused
  | ok document =>
    show Settles _ _ _ (client.outcome reply)
    cases reply with
    | failure reason => exact .undelivered rfl
    | response status body =>
      -- The status of a response is not looked at: only the body decides.
      rw [outcome]
      cases hbody : Json.parse (some Json.documentDepth) (Json.Source.ofBytes body) with
      | error fault => exact .notJson rfl hbody
      | ok payload => exact .decoded rfl hbody

theorem ofExcept_run {α : Type} (result : Except ClientError α) (transport : Transport) :
    (MonadExcept.ofExcept result : Sending α).run.run transport = (result, transport) := by
  cases result <;> rfl

/-- A document is sent in one request, and the reply of the transport is what comes out. -/
theorem sendDocument_run (document : String) (transport : Transport) :
    (client.sendDocument document).run.run transport =
      (client.outcome (transport.answer (transport.received ++ [client.request document])),
        { transport with received := transport.received ++ [client.request document] }) :=
  ofExcept_run _ _

/-- A selection is sent as its document, or not at all. -/
theorem sendSelection_run (operation : OperationType) (selections : List Selection)
    (fragments : List Fragment) (transport : Transport) :
    (client.sendSelection operation selections fragments).run.run transport =
      match Query.document operation selections fragments with
      | .ok document => (client.sendDocument document).run.run transport
      | .error error => (.error (.query error), transport) := by
  unfold sendSelection
  cases Query.document operation selections fragments <;> rfl

/-- A call is sent as its document, or not at all. -/
theorem perform_run_eq (call : Call) (transport : Transport) :
    (client.perform call).run.run transport =
      match call.document with
      | .ok document => (client.sendDocument document).run.run transport
      | .error error => (.error (.query error), transport) := by
  cases call with
  | query selections fragments => exact sendSelection_run _ _ _ _
  | mutate selections fragments => exact sendSelection_run _ _ _ _
  | execute document => rfl

/-- A call is the exchange with the reply that the transport gives to its request. -/
theorem perform_run (call : Call) (transport : Transport) :
    let reply := transport.answer (transport.received ++ (client.sent call).toList)
    (client.perform call).run.run transport =
      ((client.exchange reply call).2,
        { transport with
          received := transport.received ++ (client.exchange reply call).1.toList }) := by
  dsimp only
  rw [perform_run_eq, exchange_fst, exchange_eq, sent]
  cases call.document with
  | ok document => exact sendDocument_run document transport
  | error error =>
    simp only [Except.toOption, Option.map_none, Option.toList_none, List.append_nil]

/-! ## Sessions -/

/-- The requests of calls, in order. -/
def requests (client : Client) (calls : List Call) : List Request := calls.filterMap client.sent

/-- The requests of calls begin with that of the first call, if it has one. -/
theorem requests_cons (call : Call) (calls : List Call) :
    client.requests (call :: calls) = (client.sent call).toList ++ client.requests calls := by
  rw [requests, List.filterMap_cons]
  cases client.sent call <;> rfl

/-- A session is its first call, followed by the session of the others with a transport that has
received the request of the first. -/
theorem session_cons (call : Call) (calls : List Call) (transport : Transport) :
    let received := transport.received ++ (client.sent call).toList
    let others := (client.session calls).run { transport with received }
    (client.session (call :: calls)).run transport =
      ((client.exchange (transport.answer received) call).2 :: others.1, others.2) := by
  have h : (client.session (call :: calls)).run transport =
      let first := (client.perform call).run.run transport
      let others := (client.session calls).run first.2
      (first.1 :: others.1, others.2) := by
    simp only [session, List.mapM_cons]
    rfl
  rw [h, perform_run, exchange_fst]

/-- After a session the transport has received the requests of its calls behind those before. -/
theorem session_received (calls : List Call) (transport : Transport) :
    ((client.session calls).run transport).2 =
      { transport with received := transport.received ++ client.requests calls } := by
  induction calls generalizing transport with
  | nil => exact congrArg (Transport.mk · transport.answer) (List.append_nil _).symm
  | cons call calls ih =>
    rw [session_cons, requests_cons, ← List.append_assoc]
    exact ih _

/-- A session has one outcome for each call. -/
theorem session_length (calls : List Call) (transport : Transport) :
    ((client.session calls).run transport).1.length = calls.length := by
  induction calls generalizing transport with
  | nil => rfl
  | cons call calls ih =>
    rw [session_cons]
    exact congrArg (· + 1) (ih _)

/-- The outcome of a call is that of the exchange with the reply to its own request. -/
theorem session_outcome {calls : List Call} {k : Nat} {call : Call} (transport : Transport)
    (h : calls[k]? = some call) :
    let received := transport.received ++ client.requests (calls.take (k + 1))
    ((client.session calls).run transport).1[k]? =
      some (client.exchange (transport.answer received) call).2 := by
  dsimp only
  -- The transport is general, since the later calls meet one that has received the first request.
  induction calls generalizing transport k with
  | nil => cases h
  | cons first calls ih =>
    rw [session_cons, List.take_succ_cons, requests_cons]
    cases k with
    | zero =>
      cases h
      rw [List.take_zero]
      show _ = some (client.exchange (transport.answer (_ ++ (_ ++ []))) call).2
      rw [List.append_nil]
      rfl
    | succ k =>
      rw [← List.append_assoc]
      exact ih _ h

/-- The requests of calls bring the documents of these calls, one each. -/
theorem requests_carry {given : List (String × String)}
    (h : client.headers = given.map fun field => (field.1.toLower, field.2)) (calls : List Call) :
    List.Forall₂ (fun request document => request.Carries document client.endpoint given)
      (client.requests calls) (calls.filterMap fun call => call.document.toOption) := by
  induction calls with
  | nil => exact .nil
  | cons call calls ih =>
    rw [requests_cons, List.filterMap_cons, sent]
    cases call.document with
    | error error => exact ih
    | ok document => exact .cons (request_carries h document) ih

/-- The requests of the first calls are the first requests. -/
theorem requests_take (calls : List Call) (m : Nat) :
    client.requests (calls.take m) = (client.requests calls).take
      ((calls.take m).filterMap fun call => call.document.toOption).length := by
  have hsplit : client.requests calls =
      client.requests (calls.take m) ++ client.requests (calls.drop m) := by
    rw [requests, requests, requests, ← List.filterMap_append, List.take_append_drop]
  have hlength : ((calls.take m).filterMap fun call => call.document.toOption).length =
      (client.requests (calls.take m)).length := by
    rw [requests, ← List.length_map (f := client.request), List.map_filterMap]
    rfl
  rw [hsplit, hlength, List.take_left]

/-- A client sends one request for every call whose document can be written, and no other. Each
request brings its document to the endpoint under the header fields that were given last. What a
call gives depends on the reply to its own request. -/
theorem session_faithful {url : String} {registry : Registry} {fresh client : Client}
    {given : List (String × String)} (created : Client.new url registry = .ok fresh)
    (configured : fresh.addHeaders given = .ok client) (calls : List Call)
    (transport : Transport) :
    ∃ endpoint requests outcomes after,
      Endpoint.parse url = .ok endpoint ∧
      (client.session calls).run transport = (outcomes, after) ∧
      after = { transport with received := transport.received ++ requests } ∧
      List.Forall₂ (fun request document => request.Carries document endpoint given) requests
        (calls.filterMap fun call => call.document.toOption) ∧
      outcomes.length = calls.length ∧
      ∀ k call outcome, calls[k]? = some call → outcomes[k]? = some outcome →
        let sent := ((calls.take (k + 1)).filterMap fun call => call.document.toOption).length
        Settles registry (transport.answer (transport.received ++ requests.take sent))
          call.document outcome := by
  obtain ⟨endpoint, hendpoint, hfresh⟩ := bind_eq_ok.mp created
  cases hfresh
  have hclient := eq_of_addHeaders configured
  have hheaders : client.headers = given.map fun field => (field.1.toLower, field.2) := by
    rw [hclient]
    rfl
  have hregistry : client.registry = registry := by rw [hclient]
  refine ⟨client.endpoint, client.requests calls, ((client.session calls).run transport).1, _, ?_,
    rfl, session_received calls transport, requests_carry hheaders calls,
    session_length calls transport, ?_⟩
  · rw [hclient]
    exact mapError_eq_ok.mp hendpoint
  -- The call is settled by the reply to what was received up to its own request, which is the last
  -- one if the call has a document.
  · intro k call outcome hcall houtcome
    rw [session_outcome transport hcall, requests_take] at houtcome
    cases houtcome
    exact hregistry ▸ settles_exchange call

/-- A transport that fails at its first request and answers the second one with a page. -/
def fickle : Transport where
  answer received :=
    match received.length with
    | 1 => .failure "refused"
    | 2 => .response 502 (Json.utf8 "<html>")
    | _ => .response 500 (Json.utf8 "null")

/-- Calls of which two have no selection. -/
def mixedCalls : List Call :=
  [.query [] [], .execute "query", .mutate [] [], .execute "a \"b\"", .execute ""]

/-- Header fields of which two have one name, and one overrides a default. -/
def tracedFields : List (String × String) :=
  [("X-Trace", "a"), ("ACCEPT", "text/plain"), ("x-trace", "b")]

/-- The endpoint of a server on this machine. -/
def localEndpoint : Endpoint where
  scheme := some "http"
  authority := "localhost"
  target := "/graphql"

/-- The calls that can be written are sent, with the later of the two trace fields. The call whose
request is not delivered fails as the transport says. -/
theorem mixedCalls_faithful :
    ∃ fresh client requests outcomes,
      Client.new "http://localhost/graphql" .empty = .ok fresh ∧
      fresh.addHeaders tracedFields = .ok client ∧
      (client.session mixedCalls).run fickle =
        (outcomes, { fickle with received := requests }) ∧
      requests.length = 3 ∧ (∀ request ∈ requests, ("x-trace", "b") ∈ request.headers) ∧
      outcomes[1]? = some (.error (.transport "refused")) := by
  have hendpoint : Endpoint.parse "http://localhost/graphql" = .ok localEndpoint := by
    decide +kernel
  have created : Client.new "http://localhost/graphql" .empty =
      .ok { endpoint := localEndpoint, registry := .empty } := by
    rw [Client.new, hendpoint]
    rfl
  have hfields : Header.parse "X-Trace" "a" = .ok ("x-trace", "a") ∧
      Header.parse "ACCEPT" "text/plain" = .ok ("accept", "text/plain") ∧
      Header.parse "x-trace" "b" = .ok ("x-trace", "b") := by decide +kernel
  have configured : Client.addHeaders ⟨localEndpoint, [], .empty⟩ tracedFields = .ok {
      endpoint := localEndpoint
      headers := [("x-trace", "a"), ("accept", "text/plain"), ("x-trace", "b")]
      registry := .empty } := by
    simp only [addHeaders, tracedFields, List.foldlM_cons, addHeader, hfields.1, hfields.2.1,
      hfields.2.2]
    rfl
  obtain ⟨_, requests, outcomes, _, -, run, rfl, carry, length, settles⟩ :=
    session_faithful created configured mixedCalls fickle
  refine ⟨_, _, requests, outcomes, created, configured, run, carry.length_eq, ?_, ?_⟩
  · intro request hrequest
    obtain ⟨document, -, carries⟩ := exists_left_of_mem carry.flip hrequest
    exact carries.headers.mpr
      ⟨defaultFields ++ tracedFields.take 2, "x-trace", [], rfl, by decide +kernel, nofun⟩
  -- The first call that is sent is the second of all, and its request is the one that fails.
  · obtain ⟨first, second, third, rfl⟩ := List.length_eq_three.mp carry.length_eq
    cases houtcome : outcomes[1]? with
    | none => exact absurd (List.getElem?_eq_none_iff.mp houtcome) (by rw [length]; decide)
    | some outcome =>
      have hsettles : Settles .empty (.failure "refused") (.ok "query") outcome :=
        settles 1 (.execute "query") outcome rfl houtcome
      cases hsettles with
      | undelivered h =>
        cases h
        rfl
      | notJson h => cases h
      | decoded h => cases h

end Client

end TypedQuery
