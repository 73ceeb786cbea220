import TypedQuery.Client.Session
import TypedQuery.CommandLine.Run
import TypedQuery.Display.Describe
import TypedQuery.Display.Inspect
import TypedQuery.Display.Report
import TypedQuery.Main
import TypedQuery.Proofs.Response.Reading
import TypedQuery.Proofs.Schema.Reachable
import TypedQuery.Proofs.Schema.Run
import TypedQuery.Proofs.Response.Decoding
import TypedQuery.Proofs.Response.Conformance
import TypedQuery.Proofs.Json.Same
import TypedQuery.Proofs.Response.Writing
import TypedQuery.Proofs.Response.Replay
import TypedQuery.Proofs.Response.Canonical
import TypedQuery.Proofs.Schema.Lineage
import TypedQuery.Proofs.Schema.Ascent
import TypedQuery.Proofs.Schema.Consistency
import TypedQuery.Proofs.Schema.Subtypes
import TypedQuery.Proofs.Query.Wire
import TypedQuery.Proofs.Response.Answer
import TypedQuery.Proofs.Query.Lexing
import TypedQuery.Proofs.Schema.Growth
import TypedQuery.Proofs.Query.Unambiguous
import TypedQuery.Proofs.Query.Grammar
import TypedQuery.Proofs.Query.Values
import TypedQuery.Proofs.Query.Legality
import TypedQuery.Proofs.Query.Braces
import TypedQuery.Proofs.Response.Changes
import TypedQuery.Proofs.Schema.Implementers
import TypedQuery.Proofs.Schema.Agreement
import TypedQuery.Proofs.Schema.Merging
import TypedQuery.Proofs.Response.KeyOrder
import TypedQuery.Proofs.Response.Typing
import TypedQuery.Proofs.Schema.Atomic
import TypedQuery.Proofs.Query.Arguments
import TypedQuery.Proofs.Response.Mapping
import TypedQuery.Proofs.Query.Mutations
import TypedQuery.Proofs.Schema.Faults
import TypedQuery.Proofs.Response.Noninterference
import TypedQuery.Proofs.Response.Tracking
import TypedQuery.Proofs.Query.Scopes
import TypedQuery.Proofs.Client.Session
import TypedQuery.Proofs.Response.Reencoding
import TypedQuery.Proofs.Schema.Binding
import TypedQuery.Proofs.Schema.Typenames
