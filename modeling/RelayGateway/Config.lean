import RelayGateway.Cache.Error
import RelayGateway.Relay.Payload
import RelayGateway.Rollover
import RelayGateway.Sanction
import RelayGateway.Signing.Cache
import RelayGateway.Text.Blank
import RelayGateway.Url

/-! # Configuration

The settings of a gateway, section by section; every setting has a default. A configuration can be
read without making sense, so it is validated before anything is built from it.
-/
namespace RelayGateway

structure ServiceFallback where
  serviceId : ServiceId
  sendAllTraffic : Bool
  fallbackUrls : List String
deriving DecidableEq, Inhabited

structure ProtocolConfig where
  name : String
  serviceFallbacks : List ServiceFallback
deriving DecidableEq

structure TransportConfig where
  connectTimeoutMs : Nat
  poolIdleTimeoutSeconds : Nat
  poolMaxIdlePerHost : Nat
  userAgent : String
deriving DecidableEq

structure LoggingConfig where
  level : String
  format : String
deriving DecidableEq

structure GatewayConfig where
  protocol : ProtocolConfig
  cacheManager : CacheConfig
  sanctions : SanctionConfig
  signatureCache : SignatureCacheConfig
  rollover : RolloverConfig
  relay : RelayConfig
  transport : TransportConfig
  logging : LoggingConfig
deriving DecidableEq

instance : Inhabited ProtocolConfig := ⟨"shannon", []⟩

instance : Inhabited TransportConfig := ⟨5000, 30, 100, "relay-gateway/0.1.0"⟩

instance : Inhabited LoggingConfig := ⟨"info", "pretty"⟩

instance : Inhabited GatewayConfig :=
  ⟨default, default, default, default, default, default, default, default⟩

/-! ## Reading and writing -/

namespace ServiceFallback

def read? {σ : Type} [Readable σ] (s : σ) : Option ServiceFallback := do
  let fields ← Readable.fields? ["service_id", "send_all_traffic", "fallback_urls"] s
  let serviceId ← fields.required "service_id" Readable.text?
  let sendAllTraffic ← fields.defaulted "send_all_traffic" false Readable.truth?
  let fallbackUrls ← fields.required "fallback_urls" (Readable.listOf? Readable.text?)
  return ⟨serviceId, sendAllTraffic, fallbackUrls⟩

def toJson (f : ServiceFallback) : Json :=
  .object [("service_id", .string f.serviceId), ("send_all_traffic", .bool f.sendAllTraffic),
    ("fallback_urls", .array (f.fallbackUrls.map .string))]

end ServiceFallback

namespace ProtocolConfig

def read? {σ : Type} [Readable σ] (s : σ) : Option ProtocolConfig := do
  let fields ← Readable.fields? ["name", "service_fallbacks"] s
  let name ← fields.defaulted "name" "shannon" Readable.text?
  let fallbacks ← fields.defaulted "service_fallbacks" [] (Readable.listOf? ServiceFallback.read?)
  return ⟨name, fallbacks⟩

def toJson (p : ProtocolConfig) : Json :=
  .object [("name", .string p.name),
    ("service_fallbacks", .array (p.serviceFallbacks.map ServiceFallback.toJson))]

end ProtocolConfig

namespace TransportConfig

def read? {σ : Type} [Readable σ] (s : σ) : Option TransportConfig := do
  let fields ← Readable.fields? ["connect_timeout_ms", "pool_idle_timeout_seconds",
    "pool_max_idle_per_host", "user_agent"] s
  let connect ← fields.defaulted "connect_timeout_ms" 5000 Readable.number?
  let idle ← fields.defaulted "pool_idle_timeout_seconds" 30 Readable.number?
  let perHost ← fields.defaulted "pool_max_idle_per_host" 100 Readable.number?
  let agent ← fields.defaulted "user_agent" (default : TransportConfig).userAgent Readable.text?
  return ⟨connect, idle, perHost, agent⟩

def toJson (t : TransportConfig) : Json :=
  .object [("connect_timeout_ms", .natural t.connectTimeoutMs),
    ("pool_idle_timeout_seconds", .natural t.poolIdleTimeoutSeconds),
    ("pool_max_idle_per_host", .natural t.poolMaxIdlePerHost), ("user_agent", .string t.userAgent)]

end TransportConfig

namespace LoggingConfig

def read? {σ : Type} [Readable σ] (s : σ) : Option LoggingConfig := do
  let fields ← Readable.fields? ["level", "format"] s
  let level ← fields.defaulted "level" "info" Readable.text?
  let format ← fields.defaulted "format" "pretty" Readable.text?
  return ⟨level, format⟩

def toJson (l : LoggingConfig) : Json :=
  .object [("level", .string l.level), ("format", .string l.format)]

end LoggingConfig

namespace GatewayConfig

def sectionNames : List String :=
  ["protocol", "cache_manager", "sanctions", "signature_cache", "rollover", "relay", "transport",
    "logging"]

def read? {σ : Type} [Readable σ] (s : σ) : Option GatewayConfig := do
  let fields ← Readable.fields? sectionNames s
  let protocol ← fields.defaulted "protocol" default ProtocolConfig.read?
  let cacheManager ← fields.defaulted "cache_manager" default CacheConfig.read?
  let sanctions ← fields.defaulted "sanctions" default SanctionConfig.read?
  let signatureCache ← fields.defaulted "signature_cache" default SignatureCacheConfig.read?
  let rollover ← fields.defaulted "rollover" default RolloverConfig.read?
  let relay ← fields.defaulted "relay" default RelayConfig.read?
  let transport ← fields.defaulted "transport" default TransportConfig.read?
  let logging ← fields.defaulted "logging" default LoggingConfig.read?
  return { protocol, cacheManager, sanctions, signatureCache, rollover, relay, transport, logging }

def toJson (c : GatewayConfig) : Json := .object [
  ("protocol", c.protocol.toJson), ("cache_manager", c.cacheManager.toJson),
  ("sanctions", c.sanctions.toJson), ("signature_cache", c.signatureCache.toJson),
  ("rollover", c.rollover.toJson), ("relay", c.relay.toJson), ("transport", c.transport.toJson),
  ("logging", c.logging.toJson)]

/-! ## Validation -/

def validFallbackUrl (url : String) : Bool := Url.isValid url && "http".toList.isPrefixOf url.toList

/-- What is wrong with a fallback entry after entries for the services `seen`. -/
def fallbackFault? (seen : List ServiceId) (f : ServiceFallback) : Option String :=
  if f.serviceId = "" then some "Fallback service id must not be empty"
  else if seen.contains f.serviceId then
    some ("Duplicate fallback configuration for service " ++ f.serviceId)
  else if f.sendAllTraffic && f.fallbackUrls.isEmpty then
    some ("Service " ++ f.serviceId ++ " sends all traffic to fallback but has no fallback URLs")
  else
    (f.fallbackUrls.find? fun url => !validFallbackUrl url).map fun url =>
      "Invalid fallback URL for service " ++ f.serviceId ++ ": " ++ url

def fallbacksFault? (seen : List ServiceId) : List ServiceFallback → Option String
  | [] => none
  | f :: rest =>
    match fallbackFault? seen f with
    | some fault => some fault
    | none => fallbacksFault? (f.serviceId :: seen) rest

def settingsFault? (c : GatewayConfig) : Option String :=
  if c.cacheManager.refreshIntervalSeconds = 0 then
    some "Cache refresh interval must be greater than 0"
  else if c.cacheManager.sessionWorkers = 0 then some "Session workers must be greater than 0"
  else if c.sanctions.sessionTtlSeconds = 0 ∨ c.sanctions.sweepIntervalSeconds = 0 then
    some "Sanction TTL and sweep interval must be greater than 0"
  else if c.signatureCache.enabled ∧ c.signatureCache.ttlSeconds = 0 then
    some "Signature cache TTL must be greater than 0"
  else if c.rollover.pollIntervalSeconds = 0 then
    some "Rollover poll interval must be greater than 0"
  else if c.relay.concurrencyLimit = 0 then some "Relay concurrency limit must be greater than 0"
  else if c.relay.defaultTimeout = 0 then some "Relay timeout must be greater than 0"
  else if ["json", "pretty"].contains c.logging.format then none
  else some "Logging format must be 'json' or 'pretty'"

def fault? (c : GatewayConfig) : Option String :=
  if Text.allBlank c.protocol.name then some "Protocol name must not be empty"
  else
    match fallbacksFault? [] c.protocol.serviceFallbacks with
    | some fault => some fault
    | none => c.settingsFault?

end GatewayConfig
end RelayGateway
