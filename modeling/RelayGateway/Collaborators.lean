import RelayGateway.Relay.Payload
import RelayGateway.Schedule
import RelayGateway.Signing.Request

/-! # The collaborators of a gateway

The chain node, the signer and the transport are outside the gateway. Each call to them is decided
when it is made: `ω` is whatever they go by, the first argument is the time, and the answer may take
its time or never arrive.
-/
namespace RelayGateway

class Collaborators (ω : Type) where
  fetchApps (now : Nat) : ω → Pending (Except ChainError (List Application)) × ω
  fetchApp (now : Nat) (address : String) : ω → Pending (Except ChainError Application) × ω
  fetchSession (now : Nat) (service : ServiceId) (appAddress : String) :
    ω → Pending (Except ChainError Session) × ω
  /-- A session lookup has been answered or given up. -/
  sessionClosed : ω → ω
  blockHeight (now : Nat) : ω → Pending (Except ChainError Nat) × ω
  accountKey (now : Nat) (address : String) : ω → Pending (Except ChainError String) × ω
  /-- Verifies a reply of `supplier` and extracts its payload. -/
  validate (now : Nat) (supplier : String) (reply : Bytes) :
    ω → Pending (Except ChainError ValidatedRelay) × ω
  isHealthy : ω → Bool
  sign (now : Nat) (request : RelayRequest) (app : Application) :
    ω → Pending (Except SignerError SignedRelay) × ω
  post (now : Nat) (url : String) (body : Bytes) (timeout : Nat) :
    ω → Pending (Except TransportError Bytes) × ω

end RelayGateway
