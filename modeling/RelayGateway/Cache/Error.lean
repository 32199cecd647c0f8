import RelayGateway.Failure
import RelayGateway.Json.Record
import RelayGateway.Session

/-! # Settings and errors of the session cache -/
namespace RelayGateway

structure CacheConfig where
  refreshIntervalSeconds : Nat
  sessionWorkers : Nat
  fetchTimeoutSeconds : Nat
deriving DecidableEq

namespace CacheConfig

instance : Inhabited CacheConfig := ⟨60, 100, 30⟩

def refreshInterval (c : CacheConfig) : Nat := max 1 c.refreshIntervalSeconds * 1000

def fetchTimeout (c : CacheConfig) : Nat := c.fetchTimeoutSeconds * 1000

def workers (c : CacheConfig) : Nat := max 1 c.sessionWorkers

def read? {σ : Type} [Readable σ] (s : σ) : Option CacheConfig := do
  let fields ← Readable.fields?
    ["refresh_interval_seconds", "session_workers", "fetch_timeout_seconds"] s
  let interval ← fields.defaulted "refresh_interval_seconds" 60 Readable.number?
  let workers ← fields.defaulted "session_workers" 100 Readable.number?
  let timeout ← fields.defaulted "fetch_timeout_seconds" 30 Readable.number?
  return ⟨interval, workers, timeout⟩

def toJson (c : CacheConfig) : Json :=
  .object [("refresh_interval_seconds", .natural c.refreshIntervalSeconds),
    ("session_workers", .natural c.sessionWorkers),
    ("fetch_timeout_seconds", .natural c.fetchTimeoutSeconds)]

end CacheConfig

inductive CacheError where
  | appFetch (cause : ChainError)
  | noApplications
  | noSessions (attempted : Nat)
  | timeout (seconds : Nat)
  | appLookup (address : String) (cause : ChainError)
  | accountLookup (address : String) (cause : ChainError)
  | sessionLookup (service : ServiceId) (appAddress : String) (cause : ChainError)
deriving DecidableEq, Inhabited

/-- A span of whole seconds; the empty one is given in the smallest unit. -/
def secondsText (n : Nat) : String := if n = 0 then "0ns" else toString n ++ "s"

def CacheError.message : CacheError → String
  | appFetch cause => "application fetch failed: " ++ cause.message
  | noApplications => "no applications returned by the chain"
  | noSessions attempted => "all " ++ toString attempted ++ " session fetches failed"
  | timeout seconds => "chain call timed out after " ++ secondsText seconds
  | appLookup address cause => "application lookup failed for " ++ address ++ ": " ++ cause.message
  | accountLookup address cause =>
    "public key lookup failed for account " ++ address ++ ": " ++ cause.message
  | sessionLookup service appAddress cause =>
    "session lookup failed for app " ++ appAddress ++ " on service " ++ service ++ ": " ++
      cause.message

end RelayGateway
