import RelayGateway.Failure.Codec
import RelayGateway.Session.Codec

/-! # Endpoints in JSON

An endpoint is read from what it is made of: a supplier, its URLs and its session, or a fallback URL.
It is reported with its address and the session it belongs to; maps are reported in order of address.
-/
namespace RelayGateway

namespace Endpoint

/-- The URLs per kind of call; of two for one kind the later counts. -/
def rpcUrlsOfJson : Json → List (RpcType × String)
  | .object members =>
    members.reverse.filterMap fun m =>
      match RpcType.ofName? m.1, m.2.string? with
      | some t, some url => some (t, url)
      | _, _ => none
  | _ => []

def ofJson? (j : Json) : Option Endpoint :=
  match (j.field "fallback").string? with
  | some url => some (fallback url (rpcUrlsOfJson (j.field "rpc_urls")))
  | none => do
    let supplier ← (j.field "supplier").string?
    let url ← (j.field "url").string?
    let session ← Session.ofJson? (j.field "session")
    return ofSession supplier url (j.field "streaming_url").string? session

def toJson (e : Endpoint) : Json :=
  .object [("addr", .string e.addr.text), ("supplier", .string e.supplier), ("url", .string e.url),
    ("streaming_url", Json.ofOption .string e.streamingUrl), ("is_fallback", .bool e.isFallback),
    ("session_id", Json.ofOption (fun h => .string h.sessionId) e.header?),
    ("app_address", Json.ofOption (fun h => .string h.appAddress) e.header?)]

end Endpoint

namespace EndpointMap

def ofJsons? (js : List Json) : Option EndpointMap := (js.mapM Endpoint.ofJson?).map ofEndpoints

def toJson (m : EndpointMap) : Json := .array (m.sorted.map Endpoint.toJson)

end EndpointMap
end RelayGateway
