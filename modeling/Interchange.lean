import Interchange.Adapter.Pool
import Interchange.Adapter.Script
import Interchange.Auth.Kind
import Interchange.Breaker.Log
import Interchange.Breaker.Registry
import Interchange.Breaker.Run
import Interchange.Bytes.Encoding
import Interchange.Call
import Interchange.Call.Flights
import Interchange.CommandLine.Command
import Interchange.CommandLine.Program
import Interchange.Crypto.Aead
import Interchange.Crypto.Hmac
import Interchange.Error
import Interchange.Gateway.Administer
import Interchange.Monitor.Event
import Interchange.Gateway.Health
import Interchange.Gateway.Request
import Interchange.Gateway.Setup
import Interchange.Gateway.Webhook
import Interchange.Json.Reader
import Interchange.Log.Basic
import Interchange.Main
import Interchange.Monitor.Log
import Interchange.Pattern.Reader
import Interchange.Rule.Apply
import Interchange.Schema.Validate
import Interchange.Secret.Key
import Interchange.Secret.Store
import Interchange.Security.Manager
import Interchange.Settings.EnvironmentFile
import Interchange.Settings.Load
import Interchange.System.Registry
import Interchange.Text.Shown
import Interchange.Time
import Interchange.Transform.Load
import Interchange.Transform.Transformer
import Interchange.Webhook.Signature
import Interchange.Proofs.Secret.Encryptor
import Interchange.Proofs.Rule.Fields
import Interchange.Proofs.Breaker.History
import Interchange.Proofs.Breaker.Trials
import Interchange.Proofs.Breaker.LateTrials
import Interchange.Proofs.Breaker.Opening
import Interchange.Proofs.Call.Course
import Interchange.Proofs.Gateway.Course
import Interchange.Proofs.Transform.Inbound
import Interchange.Proofs.Transform.Unruled
import Interchange.Proofs.Breaker.Rejection
import Interchange.Proofs.Gateway.Asked
import Interchange.Proofs.Gateway.Invocation
import Interchange.Proofs.Gateway.Routing
import Interchange.Proofs.Auth.Endpoints
import Interchange.Proofs.Security.Systems
import Interchange.Proofs.Adapter.Systems
import Interchange.Proofs.Gateway.Systems
import Interchange.Proofs.Gateway.Twins
import Interchange.Proofs.Gateway.Isolation
import Interchange.Proofs.Auth.Freshness
import Interchange.Proofs.Gateway.Told
import Interchange.Proofs.Gateway.Webhooks
import Interchange.Proofs.Call.Fate
import Interchange.Proofs.Gateway.Quiet
import Interchange.Proofs.Gateway.Reports
import Interchange.Proofs.Gateway.Ledger
import Interchange.Proofs.Files.Path
import Interchange.Proofs.Files.Replace
import Interchange.Proofs.Json.Printed
import Interchange.Proofs.Json.Reordering
import Interchange.Proofs.Secret.Durable
import Interchange.Proofs.Breaker.Admissions
import Interchange.Proofs.Breaker.LateOutcomes
import Interchange.Proofs.Breaker.Slots
import Interchange.Proofs.Breaker.Looks
import Interchange.Proofs.Files.Stopped
import Interchange.Proofs.Files.Rooted
import Interchange.Proofs.Gateway.Failures
import Interchange.Proofs.Auth.Exchanges
import Interchange.Proofs.Auth.Grants
import Interchange.Proofs.Gateway.Batches
import Interchange.Proofs.Security.Providers
import Interchange.Proofs.System.Persistence
import Interchange.Proofs.System.RoundTrip
import Interchange.Proofs.System.Validity
import Interchange.Proofs.Call.Knowing
import Interchange.Proofs.Gateway.Equipping
import Interchange.Proofs.Gateway.Updates
import Interchange.Proofs.Gateway.Replies
import Interchange.Proofs.Gateway.OneCall
import Interchange.Proofs.Transform.External
import Interchange.Proofs.Files.Alike
import Interchange.Proofs.Secret.Names
import Interchange.Proofs.Security.Names
import Interchange.Proofs.CommandLine.Agreement
import Interchange.Proofs.CommandLine.Secrecy
import Interchange.Proofs.CommandLine.Pairs
import Interchange.Proofs.Transform.Places
import Interchange.Proofs.Webhook.Grammar
import Interchange.Proofs.Secret.Category
import Interchange.Proofs.Security.Credentials
import Interchange.Proofs.Rule.Rendering
import Interchange.Proofs.Settings.Overrides
import Interchange.Proofs.Settings.Substitution
import Interchange.Proofs.CommandLine.Written
import Interchange.Proofs.CommandLine.Init
import Interchange.Proofs.Rule.Splitting
import Interchange.Proofs.Rule.Casts
import Interchange.Proofs.Secret.Keys
import Interchange.Proofs.Auth.Factory
