import QueryGateway.Cache.Basic
import QueryGateway.Console.Arguments
import QueryGateway.Console.Commands
import QueryGateway.Credential.ApiKey
import QueryGateway.Credential.Blowfish
import QueryGateway.Credential.KeyHash
import QueryGateway.Credential.PiWords
import QueryGateway.Credential.Token
import QueryGateway.Credential.Validator
import QueryGateway.Execution.Context
import QueryGateway.Execution.Loop
import QueryGateway.Failure.Basic
import QueryGateway.Failure.Encoding
import QueryGateway.Failure.Report
import QueryGateway.Form.Complaint
import QueryGateway.Form.Field
import QueryGateway.Graph.Document
import QueryGateway.Graph.Engine
import QueryGateway.Graph.Execution
import QueryGateway.Graph.Fault
import QueryGateway.Graph.Inspection
import QueryGateway.Graph.Introspection
import QueryGateway.Graph.Reader
import QueryGateway.Graph.Schema
import QueryGateway.Graph.Suggestion
import QueryGateway.Graph.Token
import QueryGateway.Graph.Validation.Check
import QueryGateway.Graph.Validation.Literals
import QueryGateway.Graph.Validation.Overlap
import QueryGateway.Graph.Validation.Rules
import QueryGateway.Graph.Validation.Usage
import QueryGateway.Graph.Validation.Walk
import QueryGateway.Graph.Variables
import QueryGateway.Http.AcceptEncoding
import QueryGateway.Http.Gzip
import QueryGateway.Http.Header
import QueryGateway.Invocation.Adapter
import QueryGateway.Invocation.Deployment
import QueryGateway.Invocation.Event
import QueryGateway.Invocation.FailureResponse
import QueryGateway.Invocation.Query
import QueryGateway.Invocation.Resolution
import QueryGateway.Invocation.Response
import QueryGateway.Invocation.Result
import QueryGateway.Invocation.Setup
import QueryGateway.Json.Read
import QueryGateway.Json.Write
import QueryGateway.Log.Instant
import QueryGateway.Log.Line
import QueryGateway.Log.Record
import QueryGateway.Log.Setup
import QueryGateway.Log.Template
import QueryGateway.Main
import QueryGateway.Number.Binary64
import QueryGateway.Number.Notation
import QueryGateway.Number.Power
import QueryGateway.Number.Reading
import QueryGateway.Number.Shortest
import QueryGateway.Proofs.Cache.Book
import QueryGateway.Proofs.Cache.Refinement
import QueryGateway.Proofs.Console.Arguments
import QueryGateway.Proofs.Console.Generated
import QueryGateway.Proofs.Credential.ApiKey
import QueryGateway.Proofs.Credential.Grant
import QueryGateway.Proofs.Credential.KeyHash
import QueryGateway.Proofs.Credential.Token
import QueryGateway.Proofs.Except
import QueryGateway.Proofs.Execution.Lifecycle
import QueryGateway.Proofs.Failure.Encoding
import QueryGateway.Proofs.Failure.Harmless
import QueryGateway.Proofs.Form.Record
import QueryGateway.Proofs.Graph.Answer
import QueryGateway.Proofs.Http.Gzip
import QueryGateway.Proofs.Invocation.Callbacks
import QueryGateway.Proofs.Invocation.Closing
import QueryGateway.Proofs.Invocation.Content
import QueryGateway.Proofs.Invocation.ContextCache
import QueryGateway.Proofs.Invocation.Encoding
import QueryGateway.Proofs.Invocation.Envelope
import QueryGateway.Proofs.Invocation.Homemade
import QueryGateway.Proofs.Invocation.Interleaving
import QueryGateway.Proofs.Invocation.Isolation
import QueryGateway.Proofs.Invocation.Malformed
import QueryGateway.Proofs.Invocation.Order
import QueryGateway.Proofs.Invocation.Passage
import QueryGateway.Proofs.Invocation.Records
import QueryGateway.Proofs.Invocation.Request
import QueryGateway.Proofs.Invocation.Shape
import QueryGateway.Proofs.Invocation.Stage
import QueryGateway.Proofs.Invocation.Totality
import QueryGateway.Proofs.Invocation.Turns
import QueryGateway.Proofs.Invocation.Unstarted
import QueryGateway.Proofs.Invocation.Verdict
import QueryGateway.Proofs.Json.Acceptance
import QueryGateway.Proofs.Json.Document
import QueryGateway.Proofs.Json.Grammar
import QueryGateway.Proofs.Json.Readable
import QueryGateway.Proofs.Json.Room
import QueryGateway.Proofs.Json.RoundTrip
import QueryGateway.Proofs.Json.Spelling
import QueryGateway.Proofs.Json.Token
import QueryGateway.Proofs.Json.Written
import QueryGateway.Proofs.Number.Binary64
import QueryGateway.Proofs.Rehearsal.Plan
import QueryGateway.Proofs.Sample.Identity
import QueryGateway.Proofs.Sample.Overlap
import QueryGateway.Proofs.Sample.Question
import QueryGateway.Proofs.Server.Message
import QueryGateway.Proofs.Server.Mirror
import QueryGateway.Proofs.Settings.StoredKeys
import QueryGateway.Proofs.Text.Ascii
import QueryGateway.Proofs.Text.Case
import QueryGateway.Proofs.Text.Decimal
import QueryGateway.Proofs.Text.Scalar
import QueryGateway.Proofs.Text.Transport
import QueryGateway.Proofs.Text.Words
import QueryGateway.Proofs.Value.Key
import QueryGateway.Proofs.Value.Members
import QueryGateway.Rehearsal.Plan
import QueryGateway.Rehearsal.Schema
import QueryGateway.Sample.Deployment
import QueryGateway.Server.Application
import QueryGateway.Server.Message
import QueryGateway.Settings.Basic
import QueryGateway.Settings.EnvFile
import QueryGateway.Settings.Load
import QueryGateway.Text.Base64
import QueryGateway.Text.Basic
import QueryGateway.Text.Blank
import QueryGateway.Text.Case
import QueryGateway.Text.CaseTable
import QueryGateway.Text.Digit
import QueryGateway.Text.Printable
import QueryGateway.Text.Quoted
import QueryGateway.Text.Utf8
import QueryGateway.Value.Basic
import QueryGateway.Value.Equal
import QueryGateway.Value.Key
import QueryGateway.Value.Shown
import QueryGateway.Proofs.Log.Setup
import QueryGateway.Proofs.Cache.Factory
import QueryGateway.Proofs.Http.AcceptEncoding
import QueryGateway.Proofs.Invocation.Attribution
import QueryGateway.Proofs.Invocation.Correlation
import QueryGateway.Proofs.Invocation.Discretion
import QueryGateway.Proofs.Invocation.Dump
import QueryGateway.Proofs.Json.Notation
import QueryGateway.Proofs.Json.Told
import QueryGateway.Proofs.Log.Identity
import QueryGateway.Proofs.Settings.Sources
import QueryGateway.Proofs.Settings.BlankKeys
