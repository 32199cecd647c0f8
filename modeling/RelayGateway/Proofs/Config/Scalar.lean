import RelayGateway.Config
import RelayGateway.Proofs.Config.Setting

/-! # The scalar settings of a configuration

A configuration is made of scalar settings, each at a key of one section, and of the fallbacks of the
services. When a configuration is read from a tree, each of them is read from the field that stands at its
place, or it is the default when there is no such field.
-/
namespace RelayGateway

/-! ## Fields and scalars -/

namespace Setting
variable {α : Type}

def readOr (read : Setting → Option α) (fallback : α) (field : Option Setting) : Option α :=
  match field with
  | some s => read s
  | none => some fallback

theorem readOr_field {s : Setting} {names : List String} {fields : Fields Setting}
    (hfields : Readable.fields? names s = some fields) (key : String) (fallback : α)
    (read : Setting → Option α) :
    readOr read fallback (s.field? names key) = fields.defaulted key fallback read := by
  have hfield : s.field? names key = fields.lookup key :=
    congrArg (fun found : Option (Fields Setting) => found.bind fun fields => fields.lookup key) hfields
  rw [hfield]
  unfold readOr Fields.defaulted
  cases fields.lookup key <;> rfl

end Setting

/-- Where a setting stands: in a section that has fields with these names, under one of them. -/
structure SettingPlace where
  sectionName : String
  names : List String
  key : String

namespace SettingPlace

def path (x : SettingPlace) : String := x.sectionName ++ "." ++ x.key

def at? (x : SettingPlace) (tree : Setting) : Option Setting :=
  (tree.find? x.sectionName).bind (Setting.field? x.names x.key)

end SettingPlace

inductive Scalar where
  | number (n : Nat)
  | truth (b : Bool)
  | text (s : String)
deriving DecidableEq

inductive ScalarKind where
  | number
  | truth
  | text
deriving DecidableEq

namespace ScalarKind

def read? (kind : ScalarKind) (s : Setting) : Option Scalar :=
  match kind with
  | number => s.number?.map .number
  | truth => s.truth?.map .truth
  | text => s.text?.map .text

end ScalarKind

structure SectionScalar (α : Type) where
  key : String
  kind : ScalarKind
  value : α → Scalar

structure ConfigSection (α : Type) where
  name : String
  names : List String
  get : GatewayConfig → α
  read? : Setting → Option α
  scalars : List (SectionScalar α)

structure ScalarSetting extends SettingPlace where
  kind : ScalarKind
  value : GatewayConfig → Scalar

def ScalarSetting.read? (x : ScalarSetting) (field : Option Setting) : Option Scalar :=
  Setting.readOr x.kind.read? (x.value default) field

namespace ConfigSection
variable {α : Type}

def settings (z : ConfigSection α) : List ScalarSetting :=
  z.scalars.map fun x => ⟨⟨z.name, z.names, x.key⟩, x.kind, fun c => x.value (z.get c)⟩

structure Lawful [Inhabited α] (z : ConfigSection α) : Prop where
  get_default : z.get default = default
  reads : ∀ {s a}, z.read? s = some a → ∀ x ∈ z.scalars,
    Setting.readOr x.kind.read? (x.value default) (s.field? z.names x.key) = some (x.value a)

/-- A section that is left out is the default. -/
theorem Lawful.settings_read [Inhabited α] {z : ConfigSection α} (h : z.Lawful) {c : GatewayConfig}
    {tree : Setting} {fields : Fields Setting} (hfield : tree.find? z.name = fields.lookup z.name)
    (read : fields.defaulted z.name default z.read? = some (z.get c)) :
    ∀ x ∈ z.settings, x.read? (x.at? tree) = some (x.value c) := by
  intro x hx
  obtain ⟨y, hy, rfl⟩ := List.mem_map.1 hx
  unfold ScalarSetting.read? SettingPlace.at?
  dsimp only
  rw [h.get_default, hfield]
  unfold Fields.defaulted at read
  split at read
  · next s hs =>
    rw [hs]
    exact h.reads read y hy
  · next hs =>
    rw [hs, ← Option.some.inj read]
    rfl

end ConfigSection

/-- A scalar is read as the field of its record is. -/
theorem ScalarKind.readOr_field {s : Setting} {names : List String} {fields : Fields Setting}
    (hfields : Readable.fields? names s = some fields) {α : Type} {read : Setting → Option α}
    {key : String} {fallback a : α} (h : fields.defaulted key fallback read = some a)
    {kind : ScalarKind} {scalar : α → Scalar} (hkind : ∀ s, kind.read? s = (read s).map scalar) :
    Setting.readOr kind.read? (scalar fallback) (s.field? names key) = some (scalar a) := by
  rw [← Setting.readOr_field hfields] at h
  cases hfield : s.field? names key with
  | none =>
    rw [hfield] at h
    cases h
    rfl
  | some v =>
    rw [hfield] at h
    show kind.read? v = _
    rw [hkind, show read v = some a from h]
    rfl

/-! ## The sections -/

def protocolSection : ConfigSection ProtocolConfig where
  name := "protocol"
  names := ["name", "service_fallbacks"]
  get c := c.protocol
  read? := ProtocolConfig.read?
  scalars := [
    ⟨"name", .text, fun c => .text c.name⟩]

def cacheManagerSection : ConfigSection CacheConfig where
  name := "cache_manager"
  names := ["refresh_interval_seconds", "session_workers", "fetch_timeout_seconds"]
  get c := c.cacheManager
  read? := CacheConfig.read?
  scalars := [
    ⟨"refresh_interval_seconds", .number, fun c => .number c.refreshIntervalSeconds⟩,
    ⟨"session_workers", .number, fun c => .number c.sessionWorkers⟩,
    ⟨"fetch_timeout_seconds", .number, fun c => .number c.fetchTimeoutSeconds⟩]

def sanctionsSection : ConfigSection SanctionConfig where
  name := "sanctions"
  names := ["session_ttl_seconds", "sweep_interval_seconds"]
  get c := c.sanctions
  read? := SanctionConfig.read?
  scalars := [
    ⟨"session_ttl_seconds", .number, fun c => .number c.sessionTtlSeconds⟩,
    ⟨"sweep_interval_seconds", .number, fun c => .number c.sweepIntervalSeconds⟩]

def signatureCacheSection : ConfigSection SignatureCacheConfig where
  name := "signature_cache"
  names := ["enabled", "ttl_seconds", "sweep_interval_seconds", "max_entries"]
  get c := c.signatureCache
  read? := SignatureCacheConfig.read?
  scalars := [
    ⟨"enabled", .truth, fun c => .truth c.enabled⟩,
    ⟨"ttl_seconds", .number, fun c => .number c.ttlSeconds⟩,
    ⟨"sweep_interval_seconds", .number, fun c => .number c.sweepIntervalSeconds⟩,
    ⟨"max_entries", .number, fun c => .number c.maxEntries⟩]

def rolloverSection : ConfigSection RolloverConfig where
  name := "rollover"
  names := ["grace_period_blocks", "poll_interval_seconds", "call_timeout_seconds"]
  get c := c.rollover
  read? := RolloverConfig.read?
  scalars := [
    ⟨"grace_period_blocks", .number, fun c => .number c.gracePeriodBlocks⟩,
    ⟨"poll_interval_seconds", .number, fun c => .number c.pollIntervalSeconds⟩,
    ⟨"call_timeout_seconds", .number, fun c => .number c.callTimeoutSeconds⟩]

def relaySection : ConfigSection RelayConfig where
  name := "relay"
  names := ["concurrency_limit", "default_timeout_ms", "rollover_fallback_wait_ms"]
  get c := c.relay
  read? := RelayConfig.read?
  scalars := [
    ⟨"concurrency_limit", .number, fun c => .number c.concurrencyLimit⟩,
    ⟨"default_timeout_ms", .number, fun c => .number c.defaultTimeout⟩,
    ⟨"rollover_fallback_wait_ms", .number, fun c => .number c.rolloverFallbackWait⟩]

def transportSection : ConfigSection TransportConfig where
  name := "transport"
  names := ["connect_timeout_ms", "pool_idle_timeout_seconds", "pool_max_idle_per_host",
    "user_agent"]
  get c := c.transport
  read? := TransportConfig.read?
  scalars := [
    ⟨"connect_timeout_ms", .number, fun c => .number c.connectTimeoutMs⟩,
    ⟨"pool_idle_timeout_seconds", .number, fun c => .number c.poolIdleTimeoutSeconds⟩,
    ⟨"pool_max_idle_per_host", .number, fun c => .number c.poolMaxIdlePerHost⟩,
    ⟨"user_agent", .text, fun c => .text c.userAgent⟩]

def loggingSection : ConfigSection LoggingConfig where
  name := "logging"
  names := ["level", "format"]
  get c := c.logging
  read? := LoggingConfig.read?
  scalars := [
    ⟨"level", .text, fun c => .text c.level⟩,
    ⟨"format", .text, fun c => .text c.format⟩]

/-! ### They are read by their names -/

section Lawful
open ScalarKind

theorem protocolSection_lawful : protocolSection.Lawful where
  get_default := rfl
  reads := by
    intro s a h
    simp only [protocolSection, ProtocolConfig.read?, Option.bind_eq_bind,
      Option.bind_eq_some_iff] at h
    obtain ⟨fields, hfields, name, hname, _, -, h⟩ := h
    cases h
    simp only [protocolSection, List.forall_mem_cons]
    exact ⟨readOr_field hfields hname fun _ => rfl, nofun⟩

theorem cacheManagerSection_lawful : cacheManagerSection.Lawful where
  get_default := rfl
  reads := by
    intro s a h
    simp only [cacheManagerSection, CacheConfig.read?, Option.bind_eq_bind,
      Option.bind_eq_some_iff] at h
    obtain ⟨fields, hfields, interval, hinterval, workers, hworkers, timeout, htimeout, h⟩ := h
    cases h
    simp only [cacheManagerSection, List.forall_mem_cons]
    exact ⟨readOr_field hfields hinterval fun _ => rfl,
      readOr_field hfields hworkers fun _ => rfl, readOr_field hfields htimeout fun _ => rfl,
      nofun⟩

theorem sanctionsSection_lawful : sanctionsSection.Lawful where
  get_default := rfl
  reads := by
    intro s a h
    simp only [sanctionsSection, SanctionConfig.read?, Option.bind_eq_bind,
      Option.bind_eq_some_iff] at h
    obtain ⟨fields, hfields, ttl, httl, sweep, hsweep, h⟩ := h
    cases h
    simp only [sanctionsSection, List.forall_mem_cons]
    exact ⟨readOr_field hfields httl fun _ => rfl, readOr_field hfields hsweep fun _ => rfl,
      nofun⟩

theorem signatureCacheSection_lawful : signatureCacheSection.Lawful where
  get_default := rfl
  reads := by
    intro s a h
    simp only [signatureCacheSection, SignatureCacheConfig.read?, Option.bind_eq_bind,
      Option.bind_eq_some_iff] at h
    obtain ⟨fields, hfields, enabled, henabled, ttl, httl, sweep, hsweep, entries, hentries, h⟩ := h
    cases h
    simp only [signatureCacheSection, List.forall_mem_cons]
    exact ⟨readOr_field hfields henabled fun _ => rfl, readOr_field hfields httl fun _ => rfl,
      readOr_field hfields hsweep fun _ => rfl, readOr_field hfields hentries fun _ => rfl, nofun⟩

theorem rolloverSection_lawful : rolloverSection.Lawful where
  get_default := rfl
  reads := by
    intro s a h
    simp only [rolloverSection, RolloverConfig.read?, Option.bind_eq_bind,
      Option.bind_eq_some_iff] at h
    obtain ⟨fields, hfields, grace, hgrace, poll, hpoll, timeout, htimeout, h⟩ := h
    cases h
    simp only [rolloverSection, List.forall_mem_cons]
    exact ⟨readOr_field hfields hgrace fun _ => rfl, readOr_field hfields hpoll fun _ => rfl,
      readOr_field hfields htimeout fun _ => rfl, nofun⟩

theorem relaySection_lawful : relaySection.Lawful where
  get_default := rfl
  reads := by
    intro s a h
    simp only [relaySection, RelayConfig.read?, Option.bind_eq_bind,
      Option.bind_eq_some_iff] at h
    obtain ⟨fields, hfields, limit, hlimit, timeout, htimeout, wait, hwait, h⟩ := h
    cases h
    simp only [relaySection, List.forall_mem_cons]
    exact ⟨readOr_field hfields hlimit fun _ => rfl, readOr_field hfields htimeout fun _ => rfl,
      readOr_field hfields hwait fun _ => rfl, nofun⟩

theorem transportSection_lawful : transportSection.Lawful where
  get_default := rfl
  reads := by
    intro s a h
    simp only [transportSection, TransportConfig.read?, Option.bind_eq_bind,
      Option.bind_eq_some_iff] at h
    obtain ⟨fields, hfields, connect, hconnect, idle, hidle, perHost, hperHost, agent, hagent, h⟩ := h
    cases h
    simp only [transportSection, List.forall_mem_cons]
    exact ⟨readOr_field hfields hconnect fun _ => rfl, readOr_field hfields hidle fun _ => rfl,
      readOr_field hfields hperHost fun _ => rfl, readOr_field hfields hagent fun _ => rfl, nofun⟩

theorem loggingSection_lawful : loggingSection.Lawful where
  get_default := rfl
  reads := by
    intro s a h
    simp only [loggingSection, LoggingConfig.read?, Option.bind_eq_bind,
      Option.bind_eq_some_iff] at h
    obtain ⟨fields, hfields, level, hlevel, format, hformat, h⟩ := h
    cases h
    simp only [loggingSection, List.forall_mem_cons]
    exact ⟨readOr_field hfields hlevel fun _ => rfl, readOr_field hfields hformat fun _ => rfl,
      nofun⟩

end Lawful

/-! ## The whole configuration -/

namespace GatewayConfig

def scalars : List ScalarSetting :=
  protocolSection.settings ++ cacheManagerSection.settings ++ sanctionsSection.settings ++
    signatureCacheSection.settings ++ rolloverSection.settings ++ relaySection.settings ++
      transportSection.settings ++ loggingSection.settings

def fallbacksPlace : SettingPlace := ⟨protocolSection.name, protocolSection.names, "service_fallbacks"⟩

variable {c c' : GatewayConfig} {es : List (String × Setting)}

/-- There is nothing to a configuration but its scalars and the fallbacks. -/
theorem ext_of_scalars (scalar : ∀ x ∈ scalars, x.value c = x.value c')
    (fallbacks : c.protocol.serviceFallbacks = c'.protocol.serviceFallbacks) : c = c' := by
  simp only [scalars, ConfigSection.settings, protocolSection, cacheManagerSection, sanctionsSection,
    signatureCacheSection, rolloverSection, relaySection, transportSection, loggingSection, List.map,
    List.cons_append, List.nil_append, List.forall_mem_cons, Scalar.number.injEq, Scalar.truth.injEq,
    Scalar.text.injEq] at scalar
  obtain ⟨⟨_, _⟩, ⟨_, _, _⟩, ⟨_, _⟩, ⟨_, _, _, _⟩, ⟨_, _, _⟩, ⟨_, _, _⟩, ⟨_, _, _, _⟩, ⟨_, _⟩⟩ := c
  obtain ⟨⟨_, _⟩, ⟨_, _, _⟩, ⟨_, _⟩, ⟨_, _, _, _⟩, ⟨_, _, _⟩, ⟨_, _, _⟩, ⟨_, _, _, _⟩, ⟨_, _⟩⟩ := c'
  simp_all

theorem fallbacks_read {s : Setting} {p : ProtocolConfig} (h : ProtocolConfig.read? s = some p) :
    Setting.readOr (Readable.listOf? ServiceFallback.read?) []
      (s.field? fallbacksPlace.names fallbacksPlace.key) = some p.serviceFallbacks := by
  simp only [ProtocolConfig.read?, Option.bind_eq_bind, Option.bind_eq_some_iff] at h
  obtain ⟨fields, hfields, name, -, fallbacks, hfallbacks, h⟩ := h
  cases h
  exact (Setting.readOr_field hfields ..).trans hfallbacks

/-- A configuration that is read from a table is read place by place. -/
theorem reads_of_table (h : read? (Setting.table es) = some c) :
    (∀ x ∈ scalars, x.read? (x.at? (.table es)) = some (x.value c)) ∧
      Setting.readOr (Readable.listOf? ServiceFallback.read?) [] (fallbacksPlace.at? (.table es)) =
        some c.protocol.serviceFallbacks := by
  simp only [read?, Option.bind_eq_bind, Option.bind_eq_some_iff] at h
  obtain ⟨fields, hfields, protocol, hprotocol, cacheManager, hcacheManager, sanctions, hsanctions,
    signatureCache, hsignatureCache, rollover, hrollover, relay, hrelay, transport, htransport,
    logging, hlogging, h⟩ := h
  have hfind : ∀ name ∈ sectionNames, (Setting.table es).find? name = fields.lookup name := by
    intro name hname
    rw [← Option.some.inj hfields]
    exact (Setting.lookup_filter hname es).symm
  cases h
  constructor
  · simp only [scalars, List.forall_mem_append]
    refine ⟨⟨⟨⟨⟨⟨⟨?_, ?_⟩, ?_⟩, ?_⟩, ?_⟩, ?_⟩, ?_⟩, ?_⟩
    · exact protocolSection_lawful.settings_read (hfind _ (by decide)) hprotocol
    · exact cacheManagerSection_lawful.settings_read (hfind _ (by decide)) hcacheManager
    · exact sanctionsSection_lawful.settings_read (hfind _ (by decide)) hsanctions
    · exact signatureCacheSection_lawful.settings_read (hfind _ (by decide)) hsignatureCache
    · exact rolloverSection_lawful.settings_read (hfind _ (by decide)) hrollover
    · exact relaySection_lawful.settings_read (hfind _ (by decide)) hrelay
    · exact transportSection_lawful.settings_read (hfind _ (by decide)) htransport
    · exact loggingSection_lawful.settings_read (hfind _ (by decide)) hlogging
  · have hplace : fallbacksPlace.at? (.table es) = (fields.lookup "protocol").bind
        (Setting.field? fallbacksPlace.names fallbacksPlace.key) := by
      rw [← hfind _ (by decide)]
      rfl
    rw [hplace]
    unfold Fields.defaulted at hprotocol
    split at hprotocol
    · next s hs =>
      rw [hs]
      exact fallbacks_read hprotocol
    · next hs =>
      cases hprotocol
      rw [hs]
      rfl

end GatewayConfig
end RelayGateway
