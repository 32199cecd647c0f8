import RelayGateway.Bytes
import RelayGateway.Failure
import RelayGateway.Json.Parser
import RelayGateway.Json.Printer
import RelayGateway.Json.Record
import RelayGateway.Session

/-! # Relay requests

A relay is addressed to one supplier within a session, signed for an application, and sent as a JSON
object whose byte fields are written in hexadecimal.
-/
namespace RelayGateway

structure RelayRequest where
  header : SessionHeader
  supplier : String
  payload : Bytes
deriving DecidableEq, Inhabited

namespace RelayRequest

def invalid? (r : RelayRequest) : Option SignerError :=
  if r.header.sessionId = "" ∨ r.header.appAddress = "" then some .missingSessionHeader
  else if r.header.endHeight < r.header.startHeight then
    some (.invalidSessionHeader ("end height " ++ toString r.header.endHeight ++
      " is below start height " ++ toString r.header.startHeight))
  else none

end RelayRequest

structure SignedRelay where
  request : RelayRequest
  signature : Bytes
deriving DecidableEq, Inhabited

namespace SignedRelay

def isFor (s : SignedRelay) (sessionId supplier appAddress : String) : Bool :=
  s.request.header.sessionId = sessionId && s.request.supplier = supplier &&
    s.request.header.appAddress = appAddress

def toJson (s : SignedRelay) : Json :=
  let h := s.request.header
  .object [("session_id", .string h.sessionId), ("service_id", .string h.serviceId),
    ("app_address", .string h.appAddress), ("session_start_height", .natural h.startHeight),
    ("session_end_height", .natural h.endHeight), ("supplier", .string s.request.supplier),
    ("payload", .string (Bytes.hex s.request.payload)), ("signature", .string (Bytes.hex s.signature))]

def encode (s : SignedRelay) : Bytes := Bytes.ofString s.toJson.render

def fieldNames : List String :=
  ["session_id", "service_id", "app_address", "session_start_height", "session_end_height",
    "supplier", "payload", "signature"]

def ofJson? (j : Json) : Option SignedRelay := do
  let r ← Json.Record.of? fieldNames j
  let sessionId ← r.required "session_id" Json.string?
  let serviceId ← r.required "service_id" Json.string?
  let appAddress ← r.required "app_address" Json.string?
  let startHeight ← r.required "session_start_height" (Json.natural? wordBound)
  let endHeight ← r.required "session_end_height" (Json.natural? wordBound)
  let supplier ← r.required "supplier" Json.string?
  let payload ← (← r.required "payload" Json.string?) |> Bytes.ofHex?
  let signature ← (← r.required "signature" Json.string?) |> Bytes.ofHex?
  return ⟨⟨⟨sessionId, serviceId, appAddress, startHeight, endHeight⟩, supplier, payload⟩, signature⟩

def decode? (body : Bytes) : Option SignedRelay := do
  let text ← Bytes.text? body
  let j ← Json.parse? text
  ofJson? j

end SignedRelay
end RelayGateway
