import RelayGateway.Json.Record
import RelayGateway.Relay.Observation

/-! # Sanctions

A sanction keeps an endpoint out of the candidates. A permanent one holds for the endpoint wherever
it turns up; a session sanction holds for one application in one session, and for a limited time.
-/
namespace RelayGateway

structure Sanction where
  reason : String
  errorKind : Option EndpointErrorKind
  createdAt : Timestamp
  supplier : String
  endpointUrl : String
  appAddress : String
  sessionId : String
  sessionServiceId : ServiceId
  sessionStartHeight : Nat
deriving DecidableEq, Inhabited

structure SessionSanctionKey where
  appAddress : String
  sessionId : String
  endpointAddr : EndpointAddr
deriving DecidableEq, Inhabited

structure SanctionConfig where
  sessionTtlSeconds : Nat
  sweepIntervalSeconds : Nat
deriving DecidableEq

namespace SanctionConfig

instance : Inhabited SanctionConfig := ⟨3600, 600⟩

def sessionTtl (c : SanctionConfig) : Nat := c.sessionTtlSeconds * 1000

def sweepInterval (c : SanctionConfig) : Nat := max 1 c.sweepIntervalSeconds * 1000

def read? {σ : Type} [Readable σ] (s : σ) : Option SanctionConfig := do
  let fields ← Readable.fields? ["session_ttl_seconds", "sweep_interval_seconds"] s
  let ttl ← fields.defaulted "session_ttl_seconds" 3600 Readable.number?
  let sweep ← fields.defaulted "sweep_interval_seconds" 600 Readable.number?
  return ⟨ttl, sweep⟩

def toJson (c : SanctionConfig) : Json :=
  .object [("session_ttl_seconds", .natural c.sessionTtlSeconds),
    ("sweep_interval_seconds", .natural c.sweepIntervalSeconds)]

end SanctionConfig

namespace Sanction

def ofObservation (o : EndpointObservation) (createdAt : Timestamp) : Sanction :=
  { reason := o.errorDetails.getD "", errorKind := o.errorKind, createdAt, supplier := o.supplier,
    endpointUrl := o.endpointUrl, appAddress := o.appAddress, sessionId := o.sessionId,
    sessionServiceId := o.sessionServiceId, sessionStartHeight := o.sessionStartHeight }

def ofJson? (j : Json) : Option Sanction := do
  let r ← Json.Record.of? ["reason", "error_kind", "created_at", "supplier", "endpoint_url",
    "app_address", "session_id", "session_service_id", "session_start_height"] j
  let reason ← r.required "reason" Json.string?
  let errorKind ← r.optional "error_kind" EndpointErrorKind.ofJson?
  let createdAt ← r.required "created_at" Timestamp.ofJson?
  let supplier ← r.required "supplier" Json.string?
  let endpointUrl ← r.required "endpoint_url" Json.string?
  let appAddress ← r.required "app_address" Json.string?
  let sessionId ← r.required "session_id" Json.string?
  let sessionServiceId ← r.required "session_service_id" Json.string?
  let sessionStartHeight ← r.required "session_start_height" (Json.natural? wordBound)
  return { reason, errorKind, createdAt, supplier, endpointUrl, appAddress, sessionId,
           sessionServiceId, sessionStartHeight }

/-- The members of a sanction as they also stand in a report. -/
def members (s : Sanction) : List (String × Json) := [
  ("reason", .string s.reason), ("error_kind", Json.ofOption EndpointErrorKind.toJson s.errorKind),
  ("created_at", s.createdAt.toJson), ("supplier", .string s.supplier),
  ("endpoint_url", .string s.endpointUrl), ("app_address", .string s.appAddress),
  ("session_id", .string s.sessionId), ("session_service_id", .string s.sessionServiceId),
  ("session_start_height", .natural s.sessionStartHeight)]

def toJson (s : Sanction) : Json := .object s.members

end Sanction

def EndpointObservation.sanctionKey (o : EndpointObservation) : SessionSanctionKey :=
  ⟨o.appAddress, o.sessionId, o.endpointAddr⟩

def Endpoint.sanctionKey? (e : Endpoint) : Option SessionSanctionKey :=
  e.header?.map fun h => ⟨h.appAddress, h.sessionId, e.addr⟩

end RelayGateway
