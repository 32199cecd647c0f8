import RelayGateway.Cache.Error
import RelayGateway.Json.Basic
import RelayGateway.Relay.Classification

/-! # Failures in JSON

A failure is reported with its name and its text. Failures of the collaborators are read from a kind,
a message and, where there is one, a status; any other kind stands for no failure.
-/
namespace RelayGateway

def Json.field (j : Json) (name : String) : Json := (j.member? name).getD .null

def Json.text (j : Json) (name : String) : String := ((j.field name).string?).getD ""

def Json.number (j : Json) (name : String) : Nat := ((j.field name).natural? wordBound).getD 0

def Json.fault (name message : String) : Json :=
  .object [("error", .string name), ("message", .string message)]

namespace ChainError

def name : ChainError → String
  | notFound _ => "NotFound"
  | timeout => "Timeout"
  | unavailable _ => "Unavailable"
  | rpc _ => "Rpc"
  | invalidRelayResponse _ => "InvalidRelayResponse"

def toJson (e : ChainError) : Json := Json.fault e.name e.message

def ofJson? (j : Json) : Option ChainError :=
  let m := j.text "message"
  [notFound m, timeout, unavailable m, rpc m, invalidRelayResponse m].find? (·.name = j.text "kind")

end ChainError

namespace SignerError

def name : SignerError → String
  | missingSessionHeader => "MissingSessionHeader"
  | invalidSessionHeader _ => "InvalidSessionHeader"
  | keyUnavailable _ => "KeyUnavailable"
  | signing _ => "Signing"
  | encoding _ => "Encoding"

def toJson (e : SignerError) : Json := Json.fault e.name e.message

def ofJson? (j : Json) : Option SignerError :=
  let m := j.text "message"
  [missingSessionHeader, invalidSessionHeader m, keyUnavailable m, signing m, encoding m].find?
    (·.name = j.text "kind")

end SignerError

namespace TransportError

def name : TransportError → String
  | timeout => "Timeout"
  | connection _ => "Connection"
  | httpStatus _ _ => "HttpStatus"
  | invalidUrl _ => "InvalidUrl"
  | request _ => "Request"

def toJson (e : TransportError) : Json := Json.fault e.name e.message

def ofJson? (j : Json) : Option TransportError :=
  let m := j.text "message"
  [timeout, connection m, httpStatus (j.number "status") m, invalidUrl m, request m].find?
    (·.name = j.text "kind")

end TransportError

namespace CacheError

def name : CacheError → String
  | appFetch _ => "AppFetch"
  | noApplications => "NoApplications"
  | noSessions _ => "NoSessions"
  | timeout _ => "Timeout"
  | appLookup _ _ => "AppLookup"
  | accountLookup _ _ => "AccountLookup"
  | sessionLookup _ _ _ => "SessionLookup"

def toJson (e : CacheError) : Json := Json.fault e.name e.message

end CacheError

namespace RelayError

def name : RelayError → String
  | noEndpoints _ => "NoEndpoints"
  | noEndpointSelected _ => "NoEndpointSelected"
  | endpointNotFound _ _ => "EndpointNotFound"
  | selectionFailed _ _ => "SelectionFailed"
  | alreadyDispatched _ => "AlreadyDispatched"
  | missingApplication _ => "MissingApplication"
  | signing _ _ => "Signing"
  | concurrencyLimit => "ConcurrencyLimit"
  | timeout => "Timeout"
  | transport _ => "Transport"
  | validation _ _ => "Validation"
  | noFallbackEndpoints _ => "NoFallbackEndpoints"

def toJson (e : RelayError) : Json :=
  .object [("error", .string e.name), ("message", .string e.message), ("kind", e.kind.toJson),
    ("sanction", e.sanction.toJson)]

end RelayError
end RelayGateway
