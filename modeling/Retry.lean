import Retry.Backoff
import Retry.Binary64.Arithmetic
import Retry.Binary64.Basic
import Retry.Clock
import Retry.Decimal.Layout
import Retry.Decimal.Shortest
import Retry.Failure.Basic
import Retry.Failure.Http
import Retry.Jitter
import Retry.Json.Document
import Retry.Json.Fault
import Retry.Json.Literal
import Retry.Json.Numeral
import Retry.Json.Printer
import Retry.Json.Reader
import Retry.Json.Value
import Retry.Log
import Retry.Policy.AttemptLimit
import Retry.Policy.Basic
import Retry.Policy.Consultation
import Retry.Policy.TimeLimit
import Retry.Proofs.Binary64.Arithmetic
import Retry.Proofs.Binary64.Error
import Retry.Proofs.Binary64.Nearest
import Retry.Proofs.Binary64.Order
import Retry.Proofs.Binary64.Power
import Retry.Proofs.Binary64.Rounding
import Retry.Proofs.Binary64.Sign
import Retry.Proofs.Clock.Advance
import Retry.Proofs.Clock.Handles
import Retry.Proofs.Clock.Saturation
import Retry.Proofs.Decimal.Interval
import Retry.Proofs.Decimal.Length
import Retry.Proofs.Decimal.Shortest
import Retry.Proofs.Delay
import Retry.Proofs.Delay.Growth
import Retry.Proofs.Delay.Initial
import Retry.Proofs.Delay.Jitter
import Retry.Proofs.Failure.Verdict
import Retry.Proofs.Json.Document
import Retry.Proofs.Json.Literal
import Retry.Proofs.Json.Numeral
import Retry.Proofs.Json.Printed
import Retry.Proofs.Json.PrintedFloat
import Retry.Proofs.Json.PrintedNumber
import Retry.Proofs.Json.ReadBack
import Retry.Proofs.Json.Reads
import Retry.Proofs.Json.Syntax
import Retry.Proofs.Policy.Algebra
import Retry.Proofs.Policy.Loosening
import Retry.Proofs.Policy.Meaning
import Retry.Proofs.Policy.Parts
import Retry.Proofs.Policy.Refusal
import Retry.Proofs.Policy.Session
import Retry.Proofs.Policy.Watches
import Retry.Proofs.Rounding
import Retry.Proofs.Sequence.Afresh
import Retry.Proofs.Sequence.CallCount
import Retry.Proofs.Sequence.Chance
import Retry.Proofs.Sequence.Composition
import Retry.Proofs.Sequence.Course
import Retry.Proofs.Sequence.Ending
import Retry.Proofs.Sequence.Execute
import Retry.Proofs.Sequence.Loosening
import Retry.Proofs.Sequence.Overrun
import Retry.Proofs.Sequence.Schedule
import Retry.Proofs.Sequence.Shift
import Retry.Proofs.Sequence.Simulation
import Retry.Proofs.Sequence.Stop
import Retry.Proofs.Sequence.StopRule
import Retry.Proofs.Sequence.Story
import Retry.Proofs.Sequence.Trace
import Retry.Proofs.Sequence.Waits
import Retry.Proofs.Settings.Arrangement
import Retry.Proofs.Settings.Build
import Retry.Proofs.Settings.Decoding
import Retry.Proofs.Settings.Exhaustion
import Retry.Proofs.Settings.Members
import Retry.Proofs.Settings.Reload
import Retry.Proofs.Settings.RoundTrip
import Retry.Proofs.Settings.Unknown
import Retry.Proofs.Span.Precision
import Retry.Proofs.Span.Seconds
import Retry.Rounding
import Retry.Sequence
import Retry.Settings.Basic
import Retry.Settings.Error
import Retry.Settings.Names
import Retry.Settings.Printer
import Retry.Settings.Reader
import Retry.Span.Basic
import Retry.Span.Seconds
import Retry.Span.Text
import Retry.Template
import Retry.Text.Invisible
import Retry.Text.Outline
import Retry.Text.Quoted
