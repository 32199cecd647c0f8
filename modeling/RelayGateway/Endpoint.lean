import RelayGateway.Session
import RelayGateway.Table

/-! # Endpoints

An endpoint is a remote node that can serve relays. Protocol endpoints are derived from a session
and carry it; fallback endpoints are configured per service and carry none. An endpoint is known by
its address, which joins the supplier with the URL.
-/
namespace RelayGateway

structure EndpointAddr where
  text : String
deriving DecidableEq, Inhabited

namespace EndpointAddr

def of (supplier url : String) : EndpointAddr := ⟨supplier ++ "-" ++ url⟩

def le (a b : EndpointAddr) : Bool := decide (a.text ≤ b.text)

end EndpointAddr

structure Endpoint where
  addr : EndpointAddr
  supplier : String
  url : String
  streamingUrl : Option String
  session : Option Session
  rpcUrls : List (RpcType × String)
  isFallback : Bool
deriving DecidableEq, Inhabited

abbrev EndpointMap := Table EndpointAddr Endpoint

namespace Endpoint

def ofSession (supplier url : String) (streamingUrl : Option String) (session : Session) : Endpoint :=
  ⟨EndpointAddr.of supplier url, supplier, url, streamingUrl, some session, [], false⟩

def fallbackSupplier : String := "fallback"

/-- A fallback endpoint; `rpcUrls` replaces its URL for some kinds of call. -/
def fallback (url : String) (rpcUrls : List (RpcType × String)) : Endpoint :=
  ⟨EndpointAddr.of fallbackSupplier url, fallbackSupplier, url, rpcUrls.lookup .websocket, none,
    rpcUrls, true⟩

def rpcUrl (e : Endpoint) (t : RpcType) : String := (e.rpcUrls.lookup t).getD e.url

def urlFor (e : Endpoint) (t : RpcType) : String :=
  match t.isStreaming, e.streamingUrl with
  | true, some url => url
  | _, _ => e.rpcUrl t

def header? (e : Endpoint) : Option SessionHeader := e.session.map Session.header

def same (a b : Endpoint) : Bool := a.addr = b.addr

end Endpoint

namespace EndpointMap

def ofEndpoints (es : List Endpoint) : EndpointMap := Table.ofList (es.map fun e => (e.addr, e))

def sortedAddrs (m : EndpointMap) : List EndpointAddr := m.keys.mergeSort EndpointAddr.le

def sorted (m : EndpointMap) : List Endpoint := (m.sortedEntries EndpointAddr.le).map Prod.snd

def least? (m : EndpointMap) : Option Endpoint := m.sorted.head?

/-- Adds the endpoints whose addresses are new, and counts the others. -/
def mergeFirstSeen (m : EndpointMap) : List Endpoint → EndpointMap × Nat
  | [] => (m, 0)
  | e :: rest =>
    if m.contains e.addr then
      let (merged, duplicates) := mergeFirstSeen m rest
      (merged, duplicates + 1)
    else mergeFirstSeen (m.insert e.addr e) rest

end EndpointMap

/-- The last URL that serves plain calls, and the last streaming URL. -/
def SupplierEndpoints.plainUrl? (s : SupplierEndpoints) : Option String :=
  ((s.urls.filter fun u => !u.rpcType.isStreaming).getLast?).map SupplierUrl.url

def SupplierEndpoints.streamingUrl? (s : SupplierEndpoints) : Option String :=
  ((s.urls.filter fun u => u.rpcType.isStreaming).getLast?).map SupplierUrl.url

namespace Session

/-- The endpoint of one supplier; a supplier with streaming URLs alone has none. -/
def endpointOf? (s : Session) (supplier : SupplierEndpoints) : Option Endpoint :=
  supplier.plainUrl?.map fun url => Endpoint.ofSession supplier.supplier url supplier.streamingUrl? s

def allows (allowed : Option String) (supplier : SupplierEndpoints) : Bool :=
  match allowed with
  | some name => name = supplier.supplier
  | none => true

/-- The endpoints of a session, or those of one supplier. Of two with one address the later stays. -/
def endpoints (s : Session) (allowed : Option String) : EndpointMap :=
  EndpointMap.ofEndpoints ((s.suppliers.filter (allows allowed)).filterMap s.endpointOf?)

end Session

def fallbackEndpoints (urls : List String) : EndpointMap :=
  EndpointMap.ofEndpoints (urls.map fun url => Endpoint.fallback url [])

end RelayGateway
