import RelayGateway.Cache.Error
import RelayGateway.Cache.Lookup
import RelayGateway.Cache.Snapshot
import RelayGateway.Collaborators
import RelayGateway.Rollover

/-! # The session cache

The cache publishes one snapshot of the chain at a time and answers from it; what the snapshot lacks
is looked up on the chain. Sessions that are fetched also tell the rollover monitor where sessions end.
-/
namespace RelayGateway

structure SessionCache where
  config : CacheConfig
  snapshot : Snapshot
  appsSeen : Bool
  sessionsSeen : Bool
  appLookups : SharedLookup Application
  publicKeys : SharedLookup String

namespace SessionCache

def new (config : CacheConfig) : SessionCache :=
  ⟨config, Snapshot.empty, false, false, SharedLookup.empty, SharedLookup.empty⟩

def isHealthy (c : SessionCache) : Bool := c.appsSeen && c.sessionsSeen

end SessionCache

/-- The cache with what it works on: the monitor it reports sessions to and the collaborators. -/
structure ChainView (ω : Type) where
  cache : SessionCache
  rollover : Option RolloverMonitor
  outside : ω
  woken : List ProcessId

namespace ChainView
variable {ω : Type}

def noteSession (v : ChainView ω) (h : SessionHeader) : ChainView ω :=
  { v with rollover := v.rollover.map fun m => m.recordSession h }

end ChainView
end RelayGateway
