import Liveness.CommandLine.Help
import Liveness.CommandLine.Options
import Liveness.CommandLine.Parser
import Liveness.Config
import Liveness.Ending
import Liveness.Failure
import Liveness.Fault
import Liveness.FrontEnd
import Liveness.Health.Basic
import Liveness.Health.Reader
import Liveness.Http.Client
import Liveness.Http.Request
import Liveness.Http.Uri
import Liveness.Json.Binary64
import Liveness.Json.Number
import Liveness.Json.Quoted
import Liveness.Json.Skip
import Liveness.Json.Token
import Liveness.Log.Filter
import Liveness.Log.Notice
import Liveness.Log.Pattern.Basic
import Liveness.Log.Pattern.Class
import Liveness.Log.Pattern.Escape
import Liveness.Log.Pattern.Reader
import Liveness.Main
import Liveness.OsError
import Liveness.Outcome
import Liveness.Pool.Machine
import Liveness.Pool.Schedule
import Liveness.Pool.Task
import Liveness.Probe.Batch
import Liveness.Probe.Course
import Liveness.Probe.Prober
import Liveness.Probe.Session
import Liveness.Probe.Transport
import Liveness.Program
import Liveness.Proofs.CommandLine.Precedence
import Liveness.Proofs.CommandLine.Setting
import Liveness.Proofs.CommandLine.Spelling
import Liveness.Proofs.Config.Address
import Liveness.Proofs.Config.Rules
import Liveness.Proofs.FrontEnd.Agreement
import Liveness.Proofs.FrontEnd.Modes
import Liveness.Proofs.FrontEnd.Rejection
import Liveness.Proofs.FrontEnd.Setup
import Liveness.Proofs.FrontEnd.Strict
import Liveness.Proofs.FrontEnd.Truncation
import Liveness.Proofs.Health.Decoding
import Liveness.Proofs.Health.Wire
import Liveness.Proofs.Json.Grammar
import Liveness.Proofs.Json.Lexing
import Liveness.Proofs.Json.Number
import Liveness.Proofs.Json.Object
import Liveness.Proofs.Json.Quoted
import Liveness.Proofs.Json.Value
import Liveness.Proofs.Log.Record
import Liveness.Proofs.Pool.Conservation
import Liveness.Proofs.Pool.Custody
import Liveness.Proofs.Pool.Gathering
import Liveness.Proofs.Pool.Interleaving
import Liveness.Proofs.Pool.Isolation
import Liveness.Proofs.Pool.Ledger
import Liveness.Proofs.Pool.Lifecycle
import Liveness.Proofs.Pool.Mortality
import Liveness.Proofs.Pool.Opening
import Liveness.Proofs.Pool.Outlook
import Liveness.Proofs.Pool.Records
import Liveness.Proofs.Pool.Recovery
import Liveness.Proofs.Pool.Script
import Liveness.Proofs.Pool.Shutdown
import Liveness.Proofs.Pool.Transition
import Liveness.Proofs.Probe.Batch
import Liveness.Proofs.Probe.Course
import Liveness.Proofs.Probe.Exact
import Liveness.Proofs.Probe.InOrder
import Liveness.Proofs.Probe.Replay
import Liveness.Proofs.Probe.Request
import Liveness.Proofs.Probe.Serial
import Liveness.Proofs.Probe.Trace
import Liveness.Proofs.Response.Header
import Liveness.Proofs.Summary.Collected
import Liveness.Proofs.Summary.Count
import Liveness.Proofs.Summary.Limit
import Liveness.Proofs.Summary.Recording
import Liveness.Proofs.Target.Flaky
import Liveness.Proofs.Target.Handlers
import Liveness.Proofs.Target.Port
import Liveness.Proofs.Target.Requests
import Liveness.Proofs.Text.Casing
import Liveness.Proofs.Text.Grammar
import Liveness.Proofs.Text.Numeral
import Liveness.Proofs.Text.Quoted
import Liveness.Proofs.Text.Trim
import Liveness.Response
import Liveness.Sink
import Liveness.Summary
import Liveness.Target.Basic
import Liveness.Target.Port
import Liveness.Target.Router
import Liveness.Target.Transport
import Liveness.Text.Alphanumeric
import Liveness.Text.Blank
import Liveness.Text.CodeRange
import Liveness.Text.Invisible
import Liveness.Text.Numeral
import Liveness.Text.Quoted
import Liveness.Text.Slice
import Liveness.Text.Terminal
import Liveness.Text.Utf8
