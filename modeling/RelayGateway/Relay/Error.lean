import RelayGateway.Endpoint
import RelayGateway.Failure

/-! # Relay errors

Everything that can end a request: failures before an endpoint is contacted, and failures of one
attempt.
-/
namespace RelayGateway

inductive RelayError where
  | noEndpoints (service : ServiceId)
  | noEndpointSelected (service : ServiceId)
  | endpointNotFound (endpoint : EndpointAddr) (service : ServiceId)
  | selectionFailed (service : ServiceId) (reason : String)
  | alreadyDispatched (service : ServiceId)
  | missingApplication (sessionId : String)
  | signing (appAddress : String) (cause : SignerError)
  | concurrencyLimit
  | timeout
  | transport (cause : TransportError)
  | validation (endpoint : EndpointAddr) (cause : ChainError)
  | noFallbackEndpoints (service : ServiceId)
deriving DecidableEq, Inhabited

def RelayError.message : RelayError → String
  | noEndpoints service => "no endpoints available for service " ++ service
  | noEndpointSelected service => "no endpoint has been selected on service " ++ service
  | endpointNotFound endpoint service =>
    "selected endpoint " ++ endpoint.text ++ " is not a candidate for service " ++ service
  | selectionFailed service reason =>
    "endpoint selection failed for service " ++ service ++ ": " ++ reason
  | alreadyDispatched service =>
    "request context for service " ++ service ++ " was already dispatched"
  | missingApplication sessionId => "session " ++ sessionId ++ " has no application"
  | signing appAddress cause =>
    "error signing the relay request for app " ++ appAddress ++ ": " ++ cause.message
  | concurrencyLimit => "concurrency limit reached before the relay deadline"
  | timeout => "relay deadline exceeded"
  | transport cause => cause.message
  | validation endpoint cause =>
    "error verifying the relay response from endpoint " ++ endpoint.text ++ ": " ++ cause.message
  | noFallbackEndpoints service => "no fallback endpoints available for service " ++ service

end RelayGateway
