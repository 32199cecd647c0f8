import RelayGateway.Session

/-! # Sessions in JSON

What every type is read from and written to. Writing gives each field; reading lets the fields out
that have a natural default.
-/
namespace RelayGateway

namespace RpcType

def ofJson? (j : Json) : Option RpcType := j.variant?.bind ofName?

def toJson (t : RpcType) : Json := .string t.name

end RpcType

namespace Application

def ofJson? (j : Json) : Option Application := do
  let r ← Json.Record.of? ["address", "public_key", "service_ids"] j
  let address ← r.required "address" Json.string?
  let publicKey ← r.defaulted "public_key" "" Json.string?
  let serviceIds ← r.defaulted "service_ids" [] (Json.listOf? Json.string?)
  return ⟨address, publicKey, serviceIds⟩

def toJson (a : Application) : Json :=
  .object [("address", .string a.address), ("public_key", .string a.publicKey),
    ("service_ids", .array (a.serviceIds.map .string))]

end Application

namespace SupplierUrl

def ofJson? (j : Json) : Option SupplierUrl := do
  let r ← Json.Record.of? ["rpc_type", "url"] j
  let rpcType ← r.required "rpc_type" RpcType.ofJson?
  let url ← r.required "url" Json.string?
  return ⟨rpcType, url⟩

def toJson (u : SupplierUrl) : Json := .object [("rpc_type", u.rpcType.toJson), ("url", .string u.url)]

end SupplierUrl

namespace SupplierEndpoints

def ofJson? (j : Json) : Option SupplierEndpoints := do
  let r ← Json.Record.of? ["supplier", "urls"] j
  let supplier ← r.required "supplier" Json.string?
  let urls ← r.required "urls" (Json.listOf? SupplierUrl.ofJson?)
  return ⟨supplier, urls⟩

def toJson (s : SupplierEndpoints) : Json :=
  .object [("supplier", .string s.supplier), ("urls", .array (s.urls.map SupplierUrl.toJson))]

end SupplierEndpoints

namespace SessionHeader

def ofJson? (j : Json) : Option SessionHeader := do
  let r ← Json.Record.of? ["session_id", "service_id", "app_address", "start_height", "end_height"] j
  let sessionId ← r.required "session_id" Json.string?
  let serviceId ← r.required "service_id" Json.string?
  let appAddress ← r.required "app_address" Json.string?
  let startHeight ← r.required "start_height" (Json.natural? wordBound)
  let endHeight ← r.required "end_height" (Json.natural? wordBound)
  return ⟨sessionId, serviceId, appAddress, startHeight, endHeight⟩

def toJson (h : SessionHeader) : Json :=
  .object [("session_id", .string h.sessionId), ("service_id", .string h.serviceId),
    ("app_address", .string h.appAddress), ("start_height", .natural h.startHeight),
    ("end_height", .natural h.endHeight)]

end SessionHeader

namespace Session

def ofJson? (j : Json) : Option Session := do
  let r ← Json.Record.of? ["header", "application", "suppliers"] j
  let header ← r.required "header" SessionHeader.ofJson?
  let application ← r.defaulted "application" none (Json.nullable? Application.ofJson?)
  let suppliers ← r.defaulted "suppliers" [] (Json.listOf? SupplierEndpoints.ofJson?)
  return ⟨header, application, suppliers⟩

def toJson (s : Session) : Json :=
  .object [("header", s.header.toJson), ("application", Json.ofOption Application.toJson s.application),
    ("suppliers", .array (s.suppliers.map SupplierEndpoints.toJson))]

end Session
end RelayGateway
