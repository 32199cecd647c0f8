import RelayGateway.Relay.Classification
import RelayGateway.Session.Codec
import RelayGateway.Timestamp
import RelayGateway.Uuid

/-! # Observations

Every attempt at an endpoint leaves one observation: where it went, in which session, and how it
ended. The observations of a request, together with a failure before any endpoint was contacted,
are what endpoint reputation is built from.
-/
namespace RelayGateway

structure EndpointObservation where
  endpointAddr : EndpointAddr
  supplier : String
  endpointUrl : String
  isFallback : Bool
  appAddress : String
  sessionId : String
  sessionServiceId : ServiceId
  sessionStartHeight : Nat
  sessionEndHeight : Nat
  queryTimestamp : Timestamp
  responseTimestamp : Timestamp
  httpStatusCode : Option Nat
  payloadSize : Option Nat
  errorKind : Option EndpointErrorKind
  errorDetails : Option String
  recommendedSanction : Option SanctionType
deriving DecidableEq, Inhabited

namespace EndpointObservation

def headerOf (e : Endpoint) : SessionHeader := e.header?.getD ⟨"", "", "", 0, 0⟩

def ofEndpoint (e : Endpoint) (url : String) (asked answered : Timestamp) : EndpointObservation :=
  let h := headerOf e
  { endpointAddr := e.addr, supplier := e.supplier, endpointUrl := url, isFallback := e.isFallback,
    appAddress := h.appAddress, sessionId := h.sessionId, sessionServiceId := h.serviceId,
    sessionStartHeight := h.startHeight, sessionEndHeight := h.endHeight, queryTimestamp := asked,
    responseTimestamp := answered, httpStatusCode := none, payloadSize := none, errorKind := none,
    errorDetails := none, recommendedSanction := none }

def success (e : Endpoint) (url : String) (asked answered : Timestamp) (status size : Nat) :
    EndpointObservation :=
  { ofEndpoint e url asked answered with httpStatusCode := some status, payloadSize := some size }

def failure (e : Endpoint) (url : String) (asked answered : Timestamp) (kind : EndpointErrorKind)
    (details : String) (sanction : SanctionType) : EndpointObservation :=
  { ofEndpoint e url asked answered with
    errorKind := some kind, errorDetails := some details, recommendedSanction := some sanction }

def isError (o : EndpointObservation) : Bool := o.errorKind.isSome

end EndpointObservation

inductive RequestErrorKind where
  | noEndpoints
  | endpointSelection
  | internal
deriving DecidableEq, Inhabited

structure RequestError where
  kind : RequestErrorKind
  details : String
deriving DecidableEq, Inhabited

structure RequestObservations where
  requestId : Uuid
  serviceId : ServiceId
  requestError : Option RequestError
  endpointObservations : List EndpointObservation
deriving DecidableEq, Inhabited

namespace RequestObservations

def none (requestId : Uuid) (service : ServiceId) : RequestObservations :=
  ⟨requestId, service, Option.none, []⟩

def isEmpty (o : RequestObservations) : Bool := o.requestError.isNone && o.endpointObservations.isEmpty

end RequestObservations

/-! ## In JSON -/

def Timestamp.ofJson? (j : Json) : Option Timestamp := j.string?.bind Timestamp.parse?

def Timestamp.toJson (t : Timestamp) : Json := .string t.render

def Uuid.ofJson? (j : Json) : Option Uuid := j.string?.bind Uuid.parse?

def Uuid.toJson (u : Uuid) : Json := .string u.render

def EndpointAddr.ofJson? (j : Json) : Option EndpointAddr := j.string?.map EndpointAddr.mk

def EndpointAddr.toJson (a : EndpointAddr) : Json := .string a.text

namespace EndpointObservation

def fieldNames : List String :=
  ["endpoint_addr", "supplier", "endpoint_url", "is_fallback", "app_address", "session_id",
    "session_service_id", "session_start_height", "session_end_height", "query_timestamp",
    "response_timestamp", "http_status_code", "payload_size", "error_kind", "error_details",
    "recommended_sanction"]

def ofJson? (j : Json) : Option EndpointObservation := do
  let r ← Json.Record.of? fieldNames j
  let endpointAddr ← r.required "endpoint_addr" EndpointAddr.ofJson?
  let supplier ← r.required "supplier" Json.string?
  let endpointUrl ← r.required "endpoint_url" Json.string?
  let isFallback ← r.defaulted "is_fallback" false Json.bool?
  let appAddress ← r.defaulted "app_address" "" Json.string?
  let sessionId ← r.defaulted "session_id" "" Json.string?
  let sessionServiceId ← r.defaulted "session_service_id" "" Json.string?
  let sessionStartHeight ← r.defaulted "session_start_height" 0 (Json.natural? wordBound)
  let sessionEndHeight ← r.defaulted "session_end_height" 0 (Json.natural? wordBound)
  let queryTimestamp ← r.required "query_timestamp" Timestamp.ofJson?
  let responseTimestamp ← r.required "response_timestamp" Timestamp.ofJson?
  let httpStatusCode ← r.defaulted "http_status_code" none (Json.nullable? (Json.natural? 65536))
  let payloadSize ← r.defaulted "payload_size" none (Json.nullable? (Json.natural? wordBound))
  let errorKind ← r.defaulted "error_kind" none (Json.nullable? EndpointErrorKind.ofJson?)
  let errorDetails ← r.defaulted "error_details" none (Json.nullable? Json.string?)
  let recommendedSanction ←
    r.defaulted "recommended_sanction" none (Json.nullable? SanctionType.ofJson?)
  return { endpointAddr, supplier, endpointUrl, isFallback, appAddress, sessionId,
           sessionServiceId, sessionStartHeight, sessionEndHeight, queryTimestamp,
           responseTimestamp, httpStatusCode, payloadSize, errorKind, errorDetails,
           recommendedSanction }

def toJson (o : EndpointObservation) : Json := .object [
  ("endpoint_addr", o.endpointAddr.toJson), ("supplier", .string o.supplier),
  ("endpoint_url", .string o.endpointUrl), ("is_fallback", .bool o.isFallback),
  ("app_address", .string o.appAddress), ("session_id", .string o.sessionId),
  ("session_service_id", .string o.sessionServiceId),
  ("session_start_height", .natural o.sessionStartHeight),
  ("session_end_height", .natural o.sessionEndHeight),
  ("query_timestamp", o.queryTimestamp.toJson), ("response_timestamp", o.responseTimestamp.toJson),
  ("http_status_code", Json.ofOption .natural o.httpStatusCode),
  ("payload_size", Json.ofOption .natural o.payloadSize),
  ("error_kind", Json.ofOption EndpointErrorKind.toJson o.errorKind),
  ("error_details", Json.ofOption .string o.errorDetails),
  ("recommended_sanction", Json.ofOption SanctionType.toJson o.recommendedSanction)]

end EndpointObservation

namespace RequestErrorKind

def name : RequestErrorKind → String
  | noEndpoints => "no_endpoints"
  | endpointSelection => "endpoint_selection"
  | internal => "internal"

def ofName? (s : String) : Option RequestErrorKind :=
  [noEndpoints, endpointSelection, internal].find? (fun k => k.name = s)

theorem ofName?_name (k : RequestErrorKind) : ofName? k.name = some k := by cases k <;> rfl

end RequestErrorKind

namespace RequestError

def ofJson? (j : Json) : Option RequestError := do
  let r ← Json.Record.of? ["kind", "details"] j
  let kind ← r.required "kind" (fun j => j.variant?.bind RequestErrorKind.ofName?)
  let details ← r.required "details" Json.string?
  return ⟨kind, details⟩

def toJson (e : RequestError) : Json :=
  .object [("kind", .string e.kind.name), ("details", .string e.details)]

end RequestError

namespace RequestObservations

def ofJson? (j : Json) : Option RequestObservations := do
  let r ← Json.Record.of? ["request_id", "service_id", "request_error", "endpoint_observations"] j
  let requestId ← r.required "request_id" Uuid.ofJson?
  let serviceId ← r.required "service_id" Json.string?
  let requestError ← r.defaulted "request_error" Option.none (Json.nullable? RequestError.ofJson?)
  let endpointObservations ←
    r.defaulted "endpoint_observations" [] (Json.listOf? EndpointObservation.ofJson?)
  return ⟨requestId, serviceId, requestError, endpointObservations⟩

def toJson (o : RequestObservations) : Json :=
  .object [("request_id", o.requestId.toJson), ("service_id", .string o.serviceId),
    ("request_error", Json.ofOption RequestError.toJson o.requestError),
    ("endpoint_observations", .array (o.endpointObservations.map EndpointObservation.toJson))]

end RequestObservations
end RelayGateway
