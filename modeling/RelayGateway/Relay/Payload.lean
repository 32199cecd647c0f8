import RelayGateway.Bytes
import RelayGateway.Endpoint
import RelayGateway.Json.Record

/-! # Payloads and replies

What a client sends through the gateway and what it gets back, with the settings that bound the
time in between. Times are milliseconds.
-/
namespace RelayGateway

/-- A client's request: the bytes, a path below the endpoint's URL, the kind of call, and the time it
may take (the configured default when it is not given). -/
structure RelayPayload where
  data : Bytes
  path : String
  rpcType : RpcType
  timeout : Option Nat
deriving DecidableEq, Inhabited

structure RelayResponse where
  endpointAddr : EndpointAddr
  bytes : Bytes
  status : Nat
deriving DecidableEq, Inhabited

structure ValidatedRelay where
  payload : Bytes
  status : Nat
deriving DecidableEq, Inhabited

structure RelayConfig where
  concurrencyLimit : Nat
  defaultTimeout : Nat
  rolloverFallbackWait : Nat
deriving DecidableEq

namespace RelayConfig

instance : Inhabited RelayConfig := ⟨1000, 10000, 1000⟩

def read? {σ : Type} [Readable σ] (s : σ) : Option RelayConfig := do
  let fields ← Readable.fields?
    ["concurrency_limit", "default_timeout_ms", "rollover_fallback_wait_ms"] s
  let limit ← fields.defaulted "concurrency_limit" 1000 Readable.number?
  let timeout ← fields.defaulted "default_timeout_ms" 10000 Readable.number?
  let wait ← fields.defaulted "rollover_fallback_wait_ms" 1000 Readable.number?
  return ⟨limit, timeout, wait⟩

def toJson (c : RelayConfig) : Json :=
  .object [("concurrency_limit", .natural c.concurrencyLimit),
    ("default_timeout_ms", .natural c.defaultTimeout),
    ("rollover_fallback_wait_ms", .natural c.rolloverFallbackWait)]

end RelayConfig

def trimSlashes (cs : List Char) : List Char := cs.dropWhile (· = '/')

/-- The URL that a payload is posted to: the endpoint's URL for its kind of call, and its path joined
by one slash. -/
def targetUrl (e : Endpoint) (p : RelayPayload) : String :=
  let base := e.urlFor p.rpcType
  if p.path = "" then base
  else
    let trimmed := (trimSlashes base.toList.reverse).reverse
    String.ofList (trimmed ++ '/' :: trimSlashes p.path.toList)

end RelayGateway
