import Enrollment.Attempt
import Enrollment.Attempt.Validation
import Enrollment.Authority
import Enrollment.CommandLine
import Enrollment.CommandLine.Gateway
import Enrollment.CommandLine.Prover
import Enrollment.Config
import Enrollment.Config.Document
import Enrollment.Config.Environment
import Enrollment.Config.Error
import Enrollment.Config.Validation
import Enrollment.Digest.Hmac
import Enrollment.Digest.Sha256
import Enrollment.Directory
import Enrollment.Gateway
import Enrollment.Gateway.Body
import Enrollment.Gateway.Caller
import Enrollment.Gateway.Endpoint
import Enrollment.Gateway.Layers
import Enrollment.Gateway.Limiter
import Enrollment.Gateway.Metrics
import Enrollment.Gateway.Refusal
import Enrollment.Gateway.Report
import Enrollment.Gateway.Session
import Enrollment.Http.MediaType
import Enrollment.Http.Message
import Enrollment.Http.Status
import Enrollment.Json.Kind
import Enrollment.Json.Mismatch
import Enrollment.Json.Number
import Enrollment.Json.Record
import Enrollment.Json.Scan
import Enrollment.Json.Value
import Enrollment.Main
import Enrollment.Net.Address
import Enrollment.Nonce
import Enrollment.Nonce.Ledger
import Enrollment.Nonce.Session
import Enrollment.Number.Binary64
import Enrollment.Number.Scale
import Enrollment.Number.Shortest
import Enrollment.Proofs.Comparison
import Enrollment.Proofs.Config.Environment
import Enrollment.Proofs.Config.Members
import Enrollment.Proofs.Config.Saving
import Enrollment.Proofs.Config.Validation
import Enrollment.Proofs.Events
import Enrollment.Proofs.Exchange
import Enrollment.Proofs.Gateway.Allowances
import Enrollment.Proofs.Gateway.Answering
import Enrollment.Proofs.Gateway.BodySize
import Enrollment.Proofs.Gateway.Carriage
import Enrollment.Proofs.Gateway.Counts
import Enrollment.Proofs.Gateway.Creation
import Enrollment.Proofs.Gateway.Delays
import Enrollment.Proofs.Gateway.Denial
import Enrollment.Proofs.Gateway.Disabled
import Enrollment.Proofs.Gateway.Enabled
import Enrollment.Proofs.Gateway.Explanations
import Enrollment.Proofs.Gateway.Handling
import Enrollment.Proofs.Gateway.Limits
import Enrollment.Proofs.Gateway.Refusals
import Enrollment.Proofs.Gateway.Runs
import Enrollment.Proofs.Gateway.Serving
import Enrollment.Proofs.Json.Edits
import Enrollment.Proofs.Json.Grammar
import Enrollment.Proofs.Json.Members
import Enrollment.Proofs.Json.Number
import Enrollment.Proofs.Json.Reading
import Enrollment.Proofs.Json.Record
import Enrollment.Proofs.Json.Skipping
import Enrollment.Proofs.Json.Text
import Enrollment.Proofs.Ledger.Coherence
import Enrollment.Proofs.Ledger.Commutation
import Enrollment.Proofs.Ledger.Counts
import Enrollment.Proofs.Ledger.Issuance
import Enrollment.Proofs.Ledger.Lifecycle
import Enrollment.Proofs.Ledger.Likeness
import Enrollment.Proofs.Ledger.Live
import Enrollment.Proofs.Ledger.Lookup
import Enrollment.Proofs.Ledger.Presentation
import Enrollment.Proofs.Ledger.Stoppage
import Enrollment.Proofs.Ledger.Survival
import Enrollment.Proofs.Message
import Enrollment.Proofs.Net.Address
import Enrollment.Proofs.Registry.Accounts
import Enrollment.Proofs.Registry.Authorization
import Enrollment.Proofs.Registry.Calls
import Enrollment.Proofs.Registry.Counts
import Enrollment.Proofs.Registry.Independence
import Enrollment.Proofs.Registry.Nonces
import Enrollment.Proofs.Registry.Ownership
import Enrollment.Proofs.Registry.Passwords
import Enrollment.Proofs.Registry.Stoppage
import Enrollment.Proofs.Registry.Transparency
import Enrollment.Proofs.Replies
import Enrollment.Proofs.Shape
import Enrollment.Proofs.Text.Decimal
import Enrollment.Proofs.Text.Front
import Enrollment.Proofs.Text.Utf8
import Enrollment.Proofs.Time.Clock
import Enrollment.Proofs.Time.Grammar
import Enrollment.Proofs.Time.Notation
import Enrollment.Proofs.Toml.Document
import Enrollment.Proofs.Toml.Integers
import Enrollment.Proofs.Toml.Scalar
import Enrollment.Proofs.Toml.Text
import Enrollment.Proofs.Toml.Value
import Enrollment.Proofs.Traffic.Evictions
import Enrollment.Proofs.Traffic.Interleaving
import Enrollment.Proofs.Traffic.Races
import Enrollment.Proofs.Traffic.Sections
import Enrollment.Proofs.Traffic.Settlement
import Enrollment.Proofs.Traffic.Sweeping
import Enrollment.Proofs.Traffic.Tokens
import Enrollment.Proofs.Traffic.Winners
import Enrollment.Proofs.Wire
import Enrollment.Proofs.Wire.Edits
import Enrollment.Prover
import Enrollment.Prover.Message
import Enrollment.Registry
import Enrollment.Registry.Session
import Enrollment.Run
import Enrollment.Secret
import Enrollment.Setup
import Enrollment.Signature
import Enrollment.Text.Decimal
import Enrollment.Text.Excerpt
import Enrollment.Text.Hex
import Enrollment.Text.Inspect
import Enrollment.Text.Quoted
import Enrollment.Text.Utf8
import Enrollment.Time.Clock
import Enrollment.Time.Notation
import Enrollment.Time.Span
import Enrollment.Toml.Document
import Enrollment.Toml.Scalar
import Enrollment.Toml.Table
import Enrollment.Toml.Text
import Enrollment.Toml.Writer
import Enrollment.Unicode.Blank
import Enrollment.Unicode.Printable
import Enrollment.Wire
import Enrollment.Proofs.Rules
import Enrollment.Proofs.Text.Quoted
import Enrollment.Proofs.Disclosure
import Enrollment.Proofs.Http.Headers
import Enrollment.Proofs.Gateway.Caller
