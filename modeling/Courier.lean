import Courier.Client.Basic
import Courier.Client.Build
import Courier.Client.Request
import Courier.CommandLine
import Courier.Decimal.Binary64
import Courier.Decimal.Fixed
import Courier.Decimal.Layout
import Courier.Decimal.Shortest
import Courier.Dispatch.Counters
import Courier.Dispatch.Progress
import Courier.Dispatch.Run
import Courier.Entries
import Courier.Exchange
import Courier.Failure.Basic
import Courier.Failure.Guard
import Courier.Failure.Kind
import Courier.Failure.Message
import Courier.Json.Read
import Courier.Json.Write
import Courier.Log
import Courier.LogFormat.Check
import Courier.LogFormat.Directive
import Courier.LogFormat.Fault
import Courier.LogFormat.Placeholder
import Courier.LogFormat.Render
import Courier.Main
import Courier.Payload
import Courier.Power
import Courier.Query
import Courier.Request.Basic
import Courier.Request.Parts
import Courier.Resolver
import Courier.Response.Basic
import Courier.Response.Body
import Courier.Response.Framing
import Courier.Response.Head
import Courier.Response.Length
import Courier.Response.Line
import Courier.Response.Parts
import Courier.Settings.Basic
import Courier.Settings.Fault
import Courier.Settings.Ini
import Courier.Settings.Level
import Courier.Settings.Reference
import Courier.Stream
import Courier.Text.Blank
import Courier.Text.Digit
import Courier.Text.Integer
import Courier.Text.Latin1
import Courier.Text.Lower
import Courier.Text.Percent
import Courier.Text.Printable
import Courier.Text.Quoted
import Courier.Text.Ranges
import Courier.Text.Replace
import Courier.Text.Split
import Courier.Text.Utf8
import Courier.Text.Word
import Courier.Transport
import Courier.Url.Basic
import Courier.Url.Literal
import Courier.Url.Parse
import Courier.Url.Parts
import Courier.Value.Basic
import Courier.Value.Equality
import Courier.Value.Integer
import Courier.Value.Pairs
import Courier.Value.Text
import Courier.Proofs.Outcomes
import Courier.Proofs.BodyReads
import Courier.Proofs.ReplyReads
import Courier.Proofs.Numbers
import Courier.Proofs.Exchanges
import Courier.Proofs.Keys
import Courier.Proofs.Lines
import Courier.Proofs.Rendering
import Courier.Proofs.Conversations
import Courier.Proofs.Segments
import Courier.Proofs.Truncation
import Courier.Proofs.Misreadings
import Courier.Proofs.Lookups
import Courier.Proofs.Borders
import Courier.Proofs.Clients
import Courier.Proofs.Taxonomy
import Courier.Proofs.Decoding
import Courier.Proofs.Issues
import Courier.Proofs.RequestLines
import Courier.Proofs.Accounts
import Courier.Proofs.Completion
import Courier.Proofs.Wire
import Courier.Proofs.Containment
import Courier.Proofs.Callers
import Courier.Proofs.Standing
import Courier.Proofs.Sharing
import Courier.Proofs.Layers
import Courier.Proofs.Fields
import Courier.Proofs.BodyFraming
import Courier.Proofs.Lifecycle
import Courier.Proofs.Echoes
import Courier.Proofs.Histories
import Courier.Proofs.HexNumbers
import Courier.Proofs.Chunking
import Courier.Proofs.ShownValues
import Courier.Proofs.SmallLetters
import Courier.Proofs.UrlReads
import Courier.Proofs.BaseUrls
import Courier.Proofs.Alignment
import Courier.Proofs.UrlTexts
import Courier.Proofs.Rereading
import Courier.Proofs.JsonReads
import Courier.Proofs.JsonWrites
import Courier.Proofs.Forms
import Courier.Proofs.Payloads
import Courier.Proofs.Separators
import Courier.Proofs.FramingChoice
import Courier.Proofs.BlockSizes
import Courier.Proofs.Queries
import Courier.Proofs.Targets
import Courier.Proofs.Numerals
import Courier.Proofs.JsonStrings
import Courier.Proofs.JsonRereading
import Courier.Proofs.Tallies
import Courier.Proofs.Counts
import Courier.Proofs.Passes
import Courier.Proofs.Placeholders
