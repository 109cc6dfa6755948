import Inclusion.Client.Call
import Inclusion.Client.EndpointSet
import Inclusion.Clock
import Inclusion.Config.Confirmer
import Inclusion.Config.Endpoint
import Inclusion.Config.Monitor
import Inclusion.Config.Reading
import Inclusion.Duration
import Inclusion.Hash
import Inclusion.Health
import Inclusion.Json.Basic
import Inclusion.Json.Number
import Inclusion.Json.Parser
import Inclusion.Json.Quoted
import Inclusion.Json.Syntax
import Inclusion.Monitor.Error
import Inclusion.Monitor.Notice
import Inclusion.Monitor.State
import Inclusion.Monitor.Step
import Inclusion.Node.Contract
import Inclusion.Node.Exchange
import Inclusion.Node.Wire
import Inclusion.Rehearsal.Feed
import Inclusion.Rehearsal.Log
import Inclusion.Rehearsal.Run
import Inclusion.Rehearsal.Script
import Inclusion.Rehearsal.State
import Inclusion.Rehearsal.Step
import Inclusion.Stopwatch
import Inclusion.Stopwatch.Table
import Inclusion.System.State
import Inclusion.System.Step
import Inclusion.Task.Error
import Inclusion.Task.Lock
import Inclusion.Task.State
import Inclusion.Task.Step
import Inclusion.Ternary.Curl
import Inclusion.Ternary.Error
import Inclusion.Ternary.Reading
import Inclusion.Ternary.Trit
import Inclusion.Ternary.Tryte
import Inclusion.Text.Blank
import Inclusion.Text.GraphemeExtend
import Inclusion.Text.Graphic
import Inclusion.Text.Ignorable
import Inclusion.Text.Numeral
import Inclusion.Text.Quoted
import Inclusion.Text.Ranges
import Inclusion.Transaction.Codec
import Inclusion.Transaction.Layout
import Inclusion.Transaction.Tail
import Inclusion.Update
import Inclusion.Proofs.Task.Lock
import Inclusion.Proofs.Task.Move
import Inclusion.Proofs.System.Cancellation
import Inclusion.Proofs.Task.Dialogue
import Inclusion.Proofs.Task.History
import Inclusion.Proofs.Task.Record
import Inclusion.Proofs.Task.Opinion
import Inclusion.Proofs.System.Calls
import Inclusion.Proofs.System.Move
import Inclusion.Proofs.System.Dialogue
import Inclusion.Proofs.System.Attempts
import Inclusion.Proofs.System.Opinion
import Inclusion.Proofs.Monitor.Registry
import Inclusion.Proofs.Monitor.Move
import Inclusion.Proofs.Monitor.Sound
import Inclusion.Proofs.Monitor.Fates
import Inclusion.Proofs.Monitor.Run
import Inclusion.Proofs.Monitor.Polls
import Inclusion.Proofs.Task.Confirmed
import Inclusion.Proofs.System.Attending
import Inclusion.Proofs.Monitor.Pollers
import Inclusion.Proofs.System.Fates
import Inclusion.Proofs.System.Polls
import Inclusion.Proofs.System.Confirmation
import Inclusion.Proofs.Task.Teardown
import Inclusion.Proofs.System.Frame
import Inclusion.Proofs.System.Engines
import Inclusion.Proofs.System.Waiting
import Inclusion.Proofs.System.Teardown
import Inclusion.Proofs.Task.Enlistment
import Inclusion.Proofs.Task.Census
import Inclusion.Proofs.Monitor.Keeping
import Inclusion.Proofs.Stopwatch
import Inclusion.Proofs.System.Enrolment
import Inclusion.Proofs.System.Watching
import Inclusion.Proofs.System.Withdrawal
import Inclusion.Proofs.System.Joining
import Inclusion.Proofs.System.Gauges
import Inclusion.Proofs.System.Sharing
import Inclusion.Proofs.System.Census
import Inclusion.Proofs.Ternary.Balanced
import Inclusion.Proofs.Ternary.Letters
import Inclusion.Proofs.Transaction.RoundTrip
import Inclusion.Proofs.Task.Pacing
import Inclusion.Proofs.System.Pacing
import Inclusion.Proofs.Health
import Inclusion.Proofs.System.Inquiries
import Inclusion.Proofs.System.Ledger
import Inclusion.Proofs.Race
import Inclusion.Proofs.System.Race
import Inclusion.Proofs.System.Answering
import Inclusion.Proofs.Transaction.Canonical
import Inclusion.Proofs.Health.History
import Inclusion.Proofs.Monitor.Permits
import Inclusion.Proofs.Monitor.Parting
import Inclusion.Proofs.Task.Failure
import Inclusion.Proofs.Task.Figures
import Inclusion.Proofs.System.Figures
import Inclusion.Proofs.System.Overflow
import Inclusion.Proofs.Ternary.Bytes
import Inclusion.Proofs.Transaction.Decoding
import Inclusion.Proofs.Transaction.Encoding
import Inclusion.Proofs.Transaction.Tail
import Inclusion.Proofs.Text.Words
import Inclusion.Proofs.Json.Quoted
import Inclusion.Proofs.Hash
import Inclusion.Proofs.System.Notices
import Inclusion.Proofs.Monitor.Sleep
import Inclusion.Proofs.Ternary.Width
import Inclusion.Proofs.Transaction.Conversion
import Inclusion.Proofs.Stopwatch.History
import Inclusion.Proofs.Text.Numeral
import Inclusion.Proofs.Node.Lists
import Inclusion.Proofs.Node.Replies
