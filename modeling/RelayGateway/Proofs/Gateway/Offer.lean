import RelayGateway.Gateway
import RelayGateway.Proofs.Endpoint

/-! # What a context is built over

A service that sends all its traffic to its fallbacks is offered those. Any other is offered exactly
what is not sanctioned at that moment, and its fallbacks when nothing else is left.
-/
namespace RelayGateway.Gateway
variable {ω : Type} {g : Gateway ω} {p : ProtocolConfig} {now : Nat} {service : ServiceId}
variable {m : RequestMetadata} {o : Offer} {c : RequestContext} {addr : EndpointAddr} {e : Endpoint}

/-! ## The fallbacks of a service -/

/-- The entry of the configuration that counts for a service: the last. -/
def configured? (p : ProtocolConfig) (service : ServiceId) : Option ServiceFallback :=
  p.serviceFallbacks.reverse.find? fun f => f.serviceId = service

def fallbackUrls (p : ProtocolConfig) (service : ServiceId) : List String :=
  ((configured? p service).map ServiceFallback.fallbackUrls).getD []

def sendsAll (p : ProtocolConfig) (service : ServiceId) : Bool :=
  ((configured? p service).map ServiceFallback.sendAllTraffic).getD false

def Diverted (p : ProtocolConfig) (service : ServiceId) : Prop :=
  sendsAll p service = true ∧ fallbackUrls p service ≠ []

theorem fallbackSet_eq (hg : g.fallbacks = fallbackSets p) (service : ServiceId) :
    g.fallbackSet service = ⟨sendsAll p service, fallbackEndpoints (fallbackUrls p service)⟩ := by
  unfold fallbackSet sendsAll fallbackUrls configured?
  rw [hg, fallbackSets, Table.find?_ofList, ← List.map_reverse, Table.lookup_map]
  cases p.serviceFallbacks.reverse.find? fun f => f.serviceId = service <;> rfl

theorem isEmpty_fallbackEndpoints (urls : List String) :
    (fallbackEndpoints urls).isEmpty = true ↔ urls = [] := by
  rw [Table.isEmpty_iff]
  constructor
  · intro h
    cases urls with
    | nil => rfl
    | cons url rest =>
      have hf := (find?_fallbackEndpoints (url :: rest)).2 ⟨url, List.mem_cons_self, rfl, rfl⟩
      rw [h] at hf
      cases hf
  · rintro rfl addr
    rfl

theorem diverted_iff (hg : g.fallbacks = fallbackSets p) :
    ((g.fallbackSet service).sendAllTraffic && !(g.fallbackSet service).endpoints.isEmpty) = true ↔
      Diverted p service := by
  rw [fallbackSet_eq hg, Bool.and_eq_true, Bool.not_eq_true', ← Bool.not_eq_true,
    isEmpty_fallbackEndpoints]
  rfl

/-! ## What is open -/

def Open (g : Gateway ω) (now : Nat) (service : ServiceId) (m : RequestMetadata) (addr : EndpointAddr)
    (e : Endpoint) : Prop :=
  (g.serviceEndpoints service m).find? addr = some e ∧ g.sanctions.reason? now e = none

theorem find?_allowed :
    (g.sanctions.allowed now (g.serviceEndpoints service m)).find? addr = some e ↔
      Open g now service m addr e := by
  rw [SanctionStore.allowed, Table.find?_filter, Option.filter_eq_some_iff, Option.isNone_iff_eq_none]
  rfl

theorem isEmpty_allowed :
    (g.sanctions.allowed now (g.serviceEndpoints service m)).isEmpty = true ↔
      ¬ ∃ addr e, Open g now service m addr e := by
  rw [Table.isEmpty_iff]
  constructor
  · rintro h ⟨addr, e, hopen⟩
    rw [← find?_allowed, h] at hopen
    cases hopen
  · intro h addr
    cases hf : (g.sanctions.allowed now (g.serviceEndpoints service m)).find? addr with
    | none => rfl
    | some e => exact absurd ⟨addr, e, find?_allowed.1 hf⟩ h

/-! ## The offer -/

theorem offer?_of_diverted (hg : g.fallbacks = fallbackSets p) (h : Diverted p service) :
    g.offer? now service m = some ⟨fallbackEndpoints (fallbackUrls p service), ∅, false⟩ := by
  unfold offer?
  dsimp only
  rw [if_pos ((diverted_iff hg).2 h), fallbackSet_eq hg]

theorem offer?_of_open (hg : g.fallbacks = fallbackSets p) (h : ¬ Diverted p service)
    (hopen : ∃ addr e, Open g now service m addr e) :
    g.offer? now service m = some ⟨g.sanctions.allowed now (g.serviceEndpoints service m),
      fallbackEndpoints (fallbackUrls p service), g.inRollover⟩ := by
  unfold offer?
  dsimp only
  rw [if_neg (mt (diverted_iff hg).1 h), if_pos, fallbackSet_eq hg]
  rw [Bool.not_eq_true', ← Bool.not_eq_true, isEmpty_allowed]
  exact fun hnone => hnone hopen

theorem offer?_of_closed (hg : g.fallbacks = fallbackSets p) (h : ¬ Diverted p service)
    (hopen : ¬ ∃ addr e, Open g now service m addr e) :
    g.offer? now service m = if fallbackUrls p service = [] then none else
      some ⟨fallbackEndpoints (fallbackUrls p service), fallbackEndpoints (fallbackUrls p service),
        g.inRollover⟩ := by
  unfold offer?
  dsimp only
  rw [if_neg (mt (diverted_iff hg).1 h), if_neg, fallbackSet_eq hg]
  · by_cases hurls : fallbackUrls p service = []
    · rw [(isEmpty_fallbackEndpoints _).2 hurls, if_pos hurls]
      rfl
    · rw [Bool.eq_false_iff.2 (mt (isEmpty_fallbackEndpoints _).1 hurls), if_neg hurls]
      rfl
  · rw [isEmpty_allowed.2 hopen]
    exact nofun

/-- An offer is made in one of three ways. -/
theorem offer?_cases (hg : g.fallbacks = fallbackSets p) (h : g.offer? now service m = some o) :
    o = ⟨fallbackEndpoints (fallbackUrls p service), ∅, false⟩ ∨
      o = ⟨g.sanctions.allowed now (g.serviceEndpoints service m),
        fallbackEndpoints (fallbackUrls p service), g.inRollover⟩ ∨
      o = ⟨fallbackEndpoints (fallbackUrls p service), fallbackEndpoints (fallbackUrls p service),
        g.inRollover⟩ := by
  by_cases hdiverted : Diverted p service
  · rw [offer?_of_diverted hg hdiverted] at h
    exact .inl (Option.some.inj h).symm
  · by_cases hopen : ∃ addr e, Open g now service m addr e
    · rw [offer?_of_open hg hdiverted hopen] at h
      exact .inr (.inl (Option.some.inj h).symm)
    · rw [offer?_of_closed hg hdiverted hopen] at h
      split at h
      · cases h
      · exact .inr (.inr (Option.some.inj h).symm)

theorem isFallback_of_find? {urls : List String} (h : (fallbackEndpoints urls).find? addr = some e) :
    e.isFallback = true := by
  obtain ⟨url, -, rfl, -⟩ := (find?_fallbackEndpoints urls).1 h
  rfl

def LeastFallback (p : ProtocolConfig) (service : ServiceId) (e : Endpoint) : Prop :=
  ∃ url ∈ fallbackUrls p service, e = .fallback url [] ∧ ∀ url' ∈ fallbackUrls p service,
    EndpointAddr.le e.addr (Endpoint.addr (.fallback url' [])) = true

theorem leastFallback_of_least? (h : (fallbackEndpoints (fallbackUrls p service)).least? = some e) :
    LeastFallback p service e := by
  obtain ⟨addr, hfind, hleast⟩ := EndpointMap.least?_spec h
  obtain ⟨url, hurl, rfl, rfl⟩ := (find?_fallbackEndpoints _).1 hfind
  refine ⟨url, hurl, rfl, ?_⟩
  intro url' hurl'
  exact hleast _ (.fallback url' []) ((find?_fallbackEndpoints _).2 ⟨url', hurl', rfl, rfl⟩)

/-- A protocol endpoint is offered only if it is open. -/
theorem open_of_offered (hg : g.fallbacks = fallbackSets p) (h : g.offer? now service m = some o)
    (hfind : o.endpoints.find? addr = some e) (hprotocol : e.isFallback = false) :
    Open g now service m addr e := by
  rcases offer?_cases hg h with rfl | rfl | rfl
  · exact absurd (isFallback_of_find? hfind) (Bool.eq_false_iff.1 hprotocol)
  · exact find?_allowed.1 hfind
  · exact absurd (isFallback_of_find? hfind) (Bool.eq_false_iff.1 hprotocol)

/-- What an offer in rollover falls back on is the fallback with the least address. -/
theorem leastFallback_of_offered (hg : g.fallbacks = fallbackSets p)
    (h : g.offer? now service m = some o) (hrollover : o.inRollover = true)
    (hleast : o.fallbacks.least? = some e) : LeastFallback p service e := by
  rcases offer?_cases hg h with rfl | rfl | rfl
  · cases hrollover
  · exact leastFallback_of_least? hleast
  · exact leastFallback_of_least? hleast

theorem buildContext_of_some (h : g.offer? now service m = some o) :
    ∃ id, (g.buildContext now service m).2 =
      .ok (RequestContext.new id service o.endpoints o.fallbacks o.inRollover) := by
  unfold buildContext
  rw [h]
  exact ⟨_, rfl⟩

theorem buildContext_of_none (h : g.offer? now service m = none) :
    (g.buildContext now service m).2 = .error ⟨service⟩ := by
  unfold buildContext
  rw [h]

theorem buildContext_ok (h : (g.buildContext now service m).2 = .ok c) :
    ∃ o id, g.offer? now service m = some o ∧
      c = RequestContext.new id service o.endpoints o.fallbacks o.inRollover := by
  cases hoffer : g.offer? now service m with
  | none =>
    rw [buildContext_of_none hoffer] at h
    cases h
  | some o =>
    obtain ⟨id, hbuilt⟩ := buildContext_of_some hoffer
    rw [hbuilt] at h
    cases h
    exact ⟨o, id, rfl, rfl⟩

end RelayGateway.Gateway
