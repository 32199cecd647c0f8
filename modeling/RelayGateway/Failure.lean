/-! # Failures of the collaborators

What can go wrong at the chain node, the signer and the transport, with the text of each failure.
-/
namespace RelayGateway

inductive ChainError where
  | notFound (what : String)
  | timeout
  | unavailable (reason : String)
  | rpc (reason : String)
  | invalidRelayResponse (reason : String)
deriving DecidableEq, Inhabited

namespace ChainError

def message : ChainError → String
  | notFound what => "not found: " ++ what
  | timeout => "chain request timed out"
  | unavailable reason => "chain node unavailable: " ++ reason
  | rpc reason => "chain rpc error: " ++ reason
  | invalidRelayResponse reason => "relay response validation failed: " ++ reason

def isTransient : ChainError → Bool
  | timeout => true
  | unavailable _ => true
  | _ => false

end ChainError

inductive SignerError where
  | missingSessionHeader
  | invalidSessionHeader (reason : String)
  | keyUnavailable (account : String)
  | signing (reason : String)
  | encoding (reason : String)
deriving DecidableEq, Inhabited

def SignerError.message : SignerError → String
  | missingSessionHeader => "relay request is missing a session header"
  | invalidSessionHeader reason => "relay request session header is invalid: " ++ reason
  | keyUnavailable account => "signing key unavailable for " ++ account
  | signing reason => "signing failed: " ++ reason
  | encoding reason => "relay encoding failed: " ++ reason

inductive TransportError where
  | timeout
  | connection (reason : String)
  | httpStatus (status : Nat) (body : String)
  | invalidUrl (reason : String)
  | request (reason : String)
deriving DecidableEq, Inhabited

def TransportError.message : TransportError → String
  | timeout => "relay request timed out"
  | connection reason => "connection failed: " ++ reason
  | httpStatus status body => "endpoint returned HTTP " ++ toString status ++ ": " ++ body
  | invalidUrl reason => "invalid endpoint url: " ++ reason
  | request reason => "relay request failed: " ++ reason

end RelayGateway
