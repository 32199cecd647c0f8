import RelayGateway.Cache.SessionCache
import RelayGateway.Config
import RelayGateway.Relay.Attempt
import RelayGateway.Relay.Context
import RelayGateway.Sanction.Store

/-! # The gateway

A gateway offers the endpoints of a service that are not sanctioned, carries requests to them, and
takes what was observed back into the sanctions. A service may have fallback endpoints: they serve
when no endpoint of the protocol can, or all the time.
-/
namespace RelayGateway

structure FallbackSet where
  sendAllTraffic : Bool
  endpoints : EndpointMap

/-- A gateway without a monitor is never in rollover. -/
structure Gateway (ω : Type) where
  name : String
  relayConfig : RelayConfig
  cache : SessionCache
  sanctions : SanctionStore
  rollover : Option RolloverMonitor
  limiter : Limiter
  signatures : SignatureCache
  fallbacks : Table ServiceId FallbackSet
  outside : ω
  requests : Nat

structure NoEndpoints where
  service : ServiceId
deriving DecidableEq, Inhabited

def NoEndpoints.message (e : NoEndpoints) : String :=
  "no unsanctioned endpoints available for service " ++ e.service

namespace Gateway
variable {ω : Type}

/-- Of two entries for one service the later counts. -/
def fallbackSets (p : ProtocolConfig) : Table ServiceId FallbackSet :=
  Table.ofList (p.serviceFallbacks.map fun f =>
    (f.serviceId, ⟨f.sendAllTraffic, fallbackEndpoints f.fallbackUrls⟩))

def new (config : GatewayConfig) (outside : ω) : Gateway ω :=
  { name := config.protocol.name, relayConfig := config.relay,
    cache := SessionCache.new config.cacheManager, sanctions := SanctionStore.new config.sanctions,
    rollover := some (RolloverMonitor.new config.rollover),
    limiter := Limiter.new config.relay.concurrencyLimit,
    signatures := SignatureCache.new config.signatureCache,
    fallbacks := fallbackSets config.protocol, outside, requests := 0 }

/-! ## Parts -/

def view (g : Gateway ω) : ChainView ω := ⟨g.cache, g.rollover, g.outside, []⟩

def withView (g : Gateway ω) (v : ChainView ω) : Gateway ω :=
  { g with cache := v.cache, rollover := v.rollover, outside := v.outside }

def relays (g : Gateway ω) : Relays ω := ⟨g.limiter, g.signatures, g.outside, []⟩

def withRelays (g : Gateway ω) (r : Relays ω) : Gateway ω :=
  { g with limiter := r.limiter, signatures := r.signatures, outside := r.outside }

/-! ## Offering endpoints -/

def inRollover (g : Gateway ω) : Bool :=
  match g.rollover with
  | some m => m.inRollover
  | none => false

def fallbackSet (g : Gateway ω) (service : ServiceId) : FallbackSet :=
  (g.fallbacks.find? service).getD ⟨false, ∅⟩

def serviceEndpoints (g : Gateway ω) (service : ServiceId) (m : RequestMetadata) : EndpointMap :=
  g.cache.snapshot.serviceEndpoints service m

structure Offer where
  endpoints : EndpointMap
  fallbacks : EndpointMap
  inRollover : Bool

/-- A service that sends all its traffic to its fallbacks offers those. Any other offers its
endpoints that are not sanctioned, or the fallbacks when there are none. -/
def offer? (g : Gateway ω) (now : Nat) (service : ServiceId) (m : RequestMetadata) : Option Offer :=
  let fallback := g.fallbackSet service
  if fallback.sendAllTraffic && !fallback.endpoints.isEmpty then
    some ⟨fallback.endpoints, ∅, false⟩
  else
    let allowed := g.sanctions.allowed now (g.serviceEndpoints service m)
    if !allowed.isEmpty then some ⟨allowed, fallback.endpoints, g.inRollover⟩
    else if !fallback.endpoints.isEmpty then
      some ⟨fallback.endpoints, fallback.endpoints, g.inRollover⟩
    else none

/-- The sanctions are consulted unless all traffic goes to the fallbacks. -/
def afterOffer (g : Gateway ω) (now : Nat) (service : ServiceId) (m : RequestMetadata) : Gateway ω :=
  let fallback := g.fallbackSet service
  if fallback.sendAllTraffic && !fallback.endpoints.isEmpty then g
  else { g with sanctions := g.sanctions.afterFilter now (g.serviceEndpoints service m) }

def newContext (g : Gateway ω) (service : ServiceId) (o : Offer) : Gateway ω × RequestContext :=
  ({ g with requests := g.requests + 1 },
    RequestContext.new (Uuid.ofNat g.requests) service o.endpoints o.fallbacks o.inRollover)

def buildContext (g : Gateway ω) (now : Nat) (service : ServiceId) (m : RequestMetadata) :
    Gateway ω × Except NoEndpoints RequestContext :=
  match g.offer? now service m with
  | some o =>
    let (g, c) := (g.afterOffer now service m).newContext service o
    (g, .ok c)
  | none => (g.afterOffer now service m, .error ⟨service⟩)

/-! ## Feedback and reports -/

def applyObservations (g : Gateway ω) (now : Nat) (o : RequestObservations) : Gateway ω :=
  { g with sanctions := g.sanctions.applyObservations now o.endpointObservations }

def sanctionDetails (g : Gateway ω) (now : Nat) (service : ServiceId) :
    Gateway ω × ServiceSanctionDetails :=
  let all := g.serviceEndpoints service ⟨none, none⟩
  let allowed := g.sanctions.allowed now all
  let g := { g with sanctions := g.sanctions.afterFilter now all }
  (g, ⟨service, all.size, allowed.size, g.sanctions.details now (some service)⟩)

def isAlive [Collaborators ω] (g : Gateway ω) : Bool :=
  g.cache.isHealthy && Collaborators.isHealthy g.outside

end Gateway
end RelayGateway
