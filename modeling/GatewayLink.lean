import GatewayLink.Proofs.Link.Loopback
import GatewayLink.Main
import GatewayLink.Packet.SameValue
import GatewayLink.Body.Row
import GatewayLink.Session.Run
import GatewayLink.Session.Passes
import GatewayLink.Proofs.Registry.Share
import GatewayLink.Proofs.Registry.Downlink
import GatewayLink.Proofs.Registry.Step
import GatewayLink.Proofs.Registry.Ledger
import GatewayLink.Proofs.Registry.Isolation
import GatewayLink.Proofs.Registry.Retry
import GatewayLink.Proofs.Text.Digits
import GatewayLink.Proofs.Moment.Calendar
import GatewayLink.Proofs.Moment.Layout
import GatewayLink.Proofs.Base64
import GatewayLink.Proofs.Base64.Padding
import GatewayLink.Proofs.Binary64.Rounding
import GatewayLink.Proofs.Binary64.Shortest
import GatewayLink.Proofs.Json.Scan
import GatewayLink.Proofs.Json.Number
import GatewayLink.Proofs.Json.Document
import GatewayLink.Proofs.Body.Reading
import GatewayLink.Proofs.Body.Records
import GatewayLink.Proofs.Body.RoundTrip
import GatewayLink.Proofs.Packet.RoundTrip
import GatewayLink.Proofs.Registry.History
import GatewayLink.Proofs.Registry.Acknowledgment
import GatewayLink.Proofs.Registry.Transmission
import GatewayLink.Proofs.Registry.Numbering
import GatewayLink.Proofs.Moment.Compact
import GatewayLink.Proofs.Packet.Framing
import GatewayLink.Proofs.Packet.Reencoding
import GatewayLink.Proofs.Registry.Reply
import GatewayLink.Proofs.Registry.Summary
import GatewayLink.Proofs.Registry.Lifecycle
import GatewayLink.Proofs.Registry.Allocation
import GatewayLink.Proofs.Registry.Submission
import GatewayLink.Proofs.Registry.Passes
import GatewayLink.Proofs.Registry.Sweep
import GatewayLink.Proofs.Json.Float
import GatewayLink.Proofs.Json.Grammar
import GatewayLink.Proofs.Json.Nesting
import GatewayLink.Proofs.Body.Schema
import GatewayLink.Proofs.Body.Conversion
import GatewayLink.Proofs.Body.Separation
import GatewayLink.Proofs.Body.Writing
import GatewayLink.Proofs.Packet.Encoding
import GatewayLink.Proofs.Packet.Header
import GatewayLink.Proofs.Link.Delivery
import GatewayLink.Proofs.Link.Rejection
import GatewayLink.Proofs.Body.Reports
import GatewayLink.Proofs.Body.RadioPayload
import GatewayLink.Proofs.Body.Rates
import GatewayLink.Proofs.Body.Lookup
import GatewayLink.Proofs.Body.Alike
import GatewayLink.Proofs.Body.Row
import GatewayLink.Proofs.GatewayId
import GatewayLink.Proofs.Toml.Quotation
import GatewayLink.Proofs.Toml.Word
import GatewayLink.Proofs.Toml.Value
import GatewayLink.Proofs.Toml.Document
import GatewayLink.Proofs.Toml.Outline
import GatewayLink.Proofs.Toml.Tree
import GatewayLink.Proofs.Settings
