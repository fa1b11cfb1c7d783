import AccessControl.Call
import AccessControl.Client
import AccessControl.CommandLine.Arguments
import AccessControl.CommandLine.Invocation
import AccessControl.CommandLine.Run
import AccessControl.CommandLine.Usage
import AccessControl.Config.Basic
import AccessControl.Config.Display
import AccessControl.Config.Error
import AccessControl.Config.Origin
import AccessControl.Config.Resolver
import AccessControl.Config.Settings
import AccessControl.Decision.Basic
import AccessControl.Decision.Response
import AccessControl.Domain.Direction
import AccessControl.Domain.Joining
import AccessControl.Domain.Mapping
import AccessControl.Domain.Name
import AccessControl.Domain.Punycode
import AccessControl.Environment
import AccessControl.Error
import AccessControl.File.Error
import AccessControl.File.Volume
import AccessControl.Host.Adapter
import AccessControl.Host.Context
import AccessControl.Host.Setup
import AccessControl.Http.Chunked
import AccessControl.Http.Delivery
import AccessControl.Http.Head
import AccessControl.Http.Host
import AccessControl.Http.Request
import AccessControl.Http.Scan
import AccessControl.Http.Url
import AccessControl.Json.Error
import AccessControl.Json.Lexeme
import AccessControl.Json.Reader
import AccessControl.Json.Skip
import AccessControl.Json.Typed
import AccessControl.Json.Value
import AccessControl.Json.Writer
import AccessControl.Log.Event
import AccessControl.Log.Sink
import AccessControl.Main
import AccessControl.Number.Binary64
import AccessControl.Number.Shortest
import AccessControl.Proofs.Acceptance
import AccessControl.Proofs.Alignment
import AccessControl.Proofs.Answers
import AccessControl.Proofs.Appending
import AccessControl.Proofs.Assigned
import AccessControl.Proofs.Batch
import AccessControl.Proofs.BodyShape
import AccessControl.Proofs.Checks
import AccessControl.Proofs.Closing
import AccessControl.Proofs.Coherence
import AccessControl.Proofs.Components
import AccessControl.Proofs.Conclusion
import AccessControl.Proofs.Correlation
import AccessControl.Proofs.Course
import AccessControl.Proofs.DecimalText
import AccessControl.Proofs.Decoding
import AccessControl.Proofs.Denotation
import AccessControl.Proofs.Dispatch
import AccessControl.Proofs.Drawing
import AccessControl.Proofs.Effects
import AccessControl.Proofs.Enforcement
import AccessControl.Proofs.Evaluation
import AccessControl.Proofs.Exchange
import AccessControl.Proofs.ExitStatus
import AccessControl.Proofs.FailedLoad
import AccessControl.Proofs.FileChecks
import AccessControl.Proofs.FileText
import AccessControl.Proofs.Gate
import AccessControl.Proofs.Grammar
import AccessControl.Proofs.Identifier
import AccessControl.Proofs.Literal
import AccessControl.Proofs.Loading
import AccessControl.Proofs.LogFile
import AccessControl.Proofs.LogLine
import AccessControl.Proofs.Masked
import AccessControl.Proofs.Natural
import AccessControl.Proofs.Numeral
import AccessControl.Proofs.NumericOverride
import AccessControl.Proofs.ObjectText
import AccessControl.Proofs.Operation
import AccessControl.Proofs.Origin
import AccessControl.Proofs.Parallel
import AccessControl.Proofs.ParallelHttps
import AccessControl.Proofs.Parts
import AccessControl.Proofs.PassedNumber
import AccessControl.Proofs.Passing
import AccessControl.Proofs.PolicyCheck
import AccessControl.Proofs.Precedence
import AccessControl.Proofs.Principal
import AccessControl.Proofs.Printed
import AccessControl.Proofs.Rejection
import AccessControl.Proofs.Reloading
import AccessControl.Proofs.Renaming
import AccessControl.Proofs.Request
import AccessControl.Proofs.ResponseShape
import AccessControl.Proofs.Retry
import AccessControl.Proofs.RoundTrip
import AccessControl.Proofs.Script
import AccessControl.Proofs.Searching
import AccessControl.Proofs.Sent
import AccessControl.Proofs.SettingsReader
import AccessControl.Proofs.Settlement
import AccessControl.Proofs.SingleQuestion
import AccessControl.Proofs.Steps
import AccessControl.Proofs.Tally
import AccessControl.Proofs.Timeline
import AccessControl.Proofs.TokenBlindness
import AccessControl.Proofs.TokenPlace
import AccessControl.Proofs.TokenSecrecy
import AccessControl.Proofs.Twin
import AccessControl.Proofs.Utf8
import AccessControl.Proofs.Warnings
import AccessControl.Proofs.WrittenLexeme
import AccessControl.Result
import AccessControl.Retry
import AccessControl.Session
import AccessControl.Supply
import AccessControl.Text.Base64
import AccessControl.Text.Blank
import AccessControl.Text.CodeTable
import AccessControl.Text.Composition
import AccessControl.Text.Decimal
import AccessControl.Text.Hex
import AccessControl.Text.Mark
import AccessControl.Text.Percent
import AccessControl.Text.Quoted
import AccessControl.Text.Split
import AccessControl.Text.Unprintable
import AccessControl.Text.Utf8
import AccessControl.Transport.Attempt
import AccessControl.Transport.Https
import AccessControl.Transport.Scripted
import AccessControl.Transport.Service
import AccessControl.Transport.Tape
import AccessControl.Trust.Certificate
import AccessControl.Trust.Pem
