import RelayGateway.Config.Source
import RelayGateway.Endpoint.Codec
import RelayGateway.Logging.Filter
import RelayGateway.Process.Assembly
import RelayGateway.Script.Codec
import RelayGateway.Proofs.Signing.Reuse
import RelayGateway.Proofs.Signing.SingleFlight
import RelayGateway.Proofs.Sanction.History
import RelayGateway.Proofs.Endpoint
import RelayGateway.Proofs.Gateway.Offer
import RelayGateway.Proofs.Process.Reachable
import RelayGateway.Proofs.Relay.Recorder
import RelayGateway.Proofs.Gateway.Contacts
import RelayGateway.Proofs.Cache.Published
import RelayGateway.Proofs.Cache.Atomicity
import RelayGateway.Proofs.Cache.Health
import RelayGateway.Proofs.Gateway.Refusal
import RelayGateway.Proofs.Process.Calls
import RelayGateway.Proofs.Relay.States
import RelayGateway.Proofs.Relay.Permits
import RelayGateway.Proofs.Relay.Progress
import RelayGateway.Proofs.Relay.Replies
import RelayGateway.Proofs.Rollover
import RelayGateway.Proofs.Relay.Record
import RelayGateway.Proofs.Gateway.Feedback
import RelayGateway.Proofs.Process.Lifetime
import RelayGateway.Proofs.Process.Announcement
import RelayGateway.Proofs.Json.Render
import RelayGateway.Proofs.Json.Codec
import RelayGateway.Proofs.Signing.Wire
import RelayGateway.Proofs.Timestamp
import RelayGateway.Proofs.Uuid
import RelayGateway.Proofs.Session
import RelayGateway.Proofs.Relay.Observation
import RelayGateway.Proofs.Signing.Matching
import RelayGateway.Proofs.ExpiringMap.Refinement
import RelayGateway.Proofs.Signing.Registry
import RelayGateway.Proofs.Signing.Counters
import RelayGateway.Proofs.Sanction.Report
import RelayGateway.Proofs.Relay.Handover
import RelayGateway.Proofs.Relay.Routing
import RelayGateway.Proofs.Cache.Clash
import RelayGateway.Proofs.Cache.Hints
import RelayGateway.Proofs.Cache.Completion
import RelayGateway.Proofs.Relay.Classification
import RelayGateway.Proofs.Relay.Precedence
import RelayGateway.Proofs.Http.Excerpt
import RelayGateway.Proofs.Relay.Closing
import RelayGateway.Proofs.Gateway.Fallbacks
import RelayGateway.Proofs.Relay.Rotation
import RelayGateway.Proofs.Process.Limits
import RelayGateway.Proofs.Config.Layers
