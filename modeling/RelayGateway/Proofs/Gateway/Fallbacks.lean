import Mathlib.Data.List.Dedup
import RelayGateway.Proofs.Gateway.Offer
import RelayGateway.Proofs.Process.Reachable
import RelayGateway.Script

/-! # The fallbacks of a valid configuration

In a configuration that is found valid no two fallback entries are for one service, so a gateway keeps
them all, each with one endpoint for every URL that it lists. These endpoints are offered in every state:
at once where all traffic goes to them, and otherwise when nothing else is left.
-/
namespace RelayGateway

/-! ## Valid entries -/

structure ServiceFallback.Sound (f : ServiceFallback) : Prop where
  named : f.serviceId ≠ ""
  served : f.sendAllTraffic = true → f.fallbackUrls ≠ []
  valid : ∀ url ∈ f.fallbackUrls, GatewayConfig.validFallbackUrl url = true

namespace GatewayConfig
variable {seen : List ServiceId} {f : ServiceFallback} {entries : List ServiceFallback}

theorem fallbackFault?_eq_none_iff : fallbackFault? seen f = none ↔ f.serviceId ∉ seen ∧ f.Sound := by
  unfold fallbackFault?
  constructor
  · intro h
    split at h
    · cases h
    split at h
    · cases h
    split at h
    · cases h
    next hnamed hnew hserved =>
    rw [Option.map_eq_none_iff, List.find?_eq_none] at h
    refine ⟨by simpa using hnew, hnamed, ?_, fun url hurl => by simpa using h url hurl⟩
    intro hall hnone
    exact hserved (by rw [hall, hnone]; rfl)
  · rintro ⟨hnew, hnamed, hserved, hvalid⟩
    rw [if_neg hnamed, if_neg (by simpa using hnew), if_neg, Option.map_eq_none_iff, List.find?_eq_none]
    · exact fun url hurl => by simpa using hvalid url hurl
    · rw [Bool.and_eq_true, List.isEmpty_iff]
      exact fun ⟨hall, hnone⟩ => hserved hall hnone

/-- A list of entries is faultless if each of them is, and no two are for one service. -/
theorem fallbacksFault?_eq_none_iff : fallbacksFault? seen entries = none ↔
    (entries.map ServiceFallback.serviceId).Nodup ∧ ∀ f ∈ entries, f.serviceId ∉ seen ∧ f.Sound := by
  induction entries generalizing seen with
  | nil => simp [fallbacksFault?]
  | cons f rest ih =>
    unfold fallbacksFault?
    rw [List.map_cons, List.nodup_cons, List.forall_mem_cons, ← fallbackFault?_eq_none_iff]
    cases hfault : fallbackFault? seen f with
    | some fault => simp
    | none =>
      dsimp only
      rw [ih]
      simp only [List.mem_cons, not_or, List.mem_map, not_exists, not_and]
      constructor
      · rintro ⟨hdistinct, hrest⟩
        exact ⟨⟨fun g hg => (hrest g hg).1.1, hdistinct⟩, trivial,
          fun g hg => ⟨(hrest g hg).1.2, (hrest g hg).2⟩⟩
      · rintro ⟨⟨hfirst, hdistinct⟩, -, hrest⟩
        exact ⟨hdistinct, fun g hg => ⟨⟨hfirst g hg, (hrest g hg).1⟩, (hrest g hg).2⟩⟩

variable {config : GatewayConfig}

theorem fault?_eq_none_iff : config.fault? = none ↔
    Text.allBlank config.protocol.name = false ∧
      fallbacksFault? [] config.protocol.serviceFallbacks = none ∧ config.settingsFault? = none := by
  unfold fault?
  cases Text.allBlank config.protocol.name with
  | true => simp
  | false => cases fallbacksFault? [] config.protocol.serviceFallbacks <;> simp

theorem fallbacksFault?_of_valid (valid : config.fault? = none) :
    fallbacksFault? [] config.protocol.serviceFallbacks = none :=
  (fault?_eq_none_iff.1 valid).2.1

theorem distinct_of_valid (valid : config.fault? = none) :
    (config.protocol.serviceFallbacks.map ServiceFallback.serviceId).Nodup :=
  (fallbacksFault?_eq_none_iff.1 (fallbacksFault?_of_valid valid)).1

theorem sound_of_valid (valid : config.fault? = none) (hf : f ∈ config.protocol.serviceFallbacks) :
    f.Sound :=
  ((fallbacksFault?_eq_none_iff.1 (fallbacksFault?_of_valid valid)).2 f hf).2

end GatewayConfig

/-! ## Their endpoints -/

def listedOnce (urls : List String) : List (EndpointAddr × Endpoint) :=
  urls.dedup.map fun url => (Endpoint.addr (.fallback url []), .fallback url [])

theorem entries_fallbackEndpoints (urls : List String) :
    (fallbackEndpoints urls).entries.Perm (listedOnce urls) := by
  have hinj : Function.Injective fun url : String =>
      (Endpoint.addr (.fallback url []), Endpoint.fallback url []) :=
    fun url url' heq => EndpointAddr.of_inj (Prod.mk.inj heq).1
  have hdistinct : (fallbackEndpoints urls).entries.Nodup :=
    List.Nodup.of_map Prod.fst (fallbackEndpoints urls).distinct
  refine (List.perm_ext_iff_of_nodup hdistinct ((List.nodup_dedup urls).map hinj)).2 ?_
  rintro ⟨addr, e⟩
  rw [← Table.find?_eq_some_iff, find?_fallbackEndpoints, List.mem_map]
  constructor
  · rintro ⟨url, hurl, rfl, rfl⟩
    exact ⟨url, List.mem_dedup.2 hurl, rfl⟩
  · rintro ⟨url, hurl, heq⟩
    cases heq
    exact ⟨url, List.mem_dedup.1 hurl, rfl, rfl⟩

namespace Gateway
variable {ω : Type} {g : Gateway ω} {p : ProtocolConfig} {f : ServiceFallback}

/-- A gateway has one set of fallbacks for each entry, with the flag of the entry and one endpoint for
each of its URLs. -/
structure Keeps (g : Gateway ω) (p : ProtocolConfig) : Prop where
  services : g.fallbacks.keys = p.serviceFallbacks.map ServiceFallback.serviceId
  entry : ∀ f ∈ p.serviceFallbacks, ∃ set, g.fallbacks.find? f.serviceId = some set ∧
    set.sendAllTraffic = f.sendAllTraffic ∧ set.endpoints.entries.Perm (listedOnce f.fallbackUrls)

/-- Sets for different services do not replace each other. -/
theorem entries_fallbackSets (distinct : (p.serviceFallbacks.map ServiceFallback.serviceId).Nodup) :
    (fallbackSets p).entries = p.serviceFallbacks.map fun f =>
      (f.serviceId, ⟨f.sendAllTraffic, fallbackEndpoints f.fallbackUrls⟩) := by
  refine Table.entries_ofList ?_
  rw [List.map_map]
  exact distinct

theorem keeps_of_distinct (distinct : (p.serviceFallbacks.map ServiceFallback.serviceId).Nodup)
    (hg : g.fallbacks = fallbackSets p) : g.Keeps p where
  services := by
    rw [hg, Table.keys, entries_fallbackSets distinct, List.map_map]
    rfl
  entry f hf := by
    refine ⟨⟨f.sendAllTraffic, fallbackEndpoints f.fallbackUrls⟩, ?_, rfl, entries_fallbackEndpoints _⟩
    rw [hg, Table.find?_eq_some_iff, entries_fallbackSets distinct]
    exact List.mem_map_of_mem hf

/-- The only entry for a service is the one that counts. -/
theorem configured?_of_mem (distinct : (p.serviceFallbacks.map ServiceFallback.serviceId).Nodup)
    (hf : f ∈ p.serviceFallbacks) : configured? p f.serviceId = some f := by
  refine find?_reverse_eq_some_iff.2 ⟨decide_eq_true rfl, ?_⟩
  obtain ⟨before, after, heq⟩ := List.append_of_mem hf
  refine ⟨before, after, heq, fun f' hf' => decide_eq_false fun hsame => ?_⟩
  rw [heq, List.map_append, List.map_cons, List.nodup_append] at distinct
  exact (List.nodup_cons.1 distinct.2.1).1 (hsame ▸ List.mem_map_of_mem hf')

/-! ## What is offered -/

/-- At any time a service with a fallback URL gets a context, and one that sends all its traffic to its
fallbacks is offered these and nothing else. -/
structure Honours (g : Gateway ω) (f : ServiceFallback) : Prop where
  served : f.fallbackUrls ≠ [] → ∀ now m, ∃ c, (g.buildContext now f.serviceId m).2 = .ok c
  diverted : f.sendAllTraffic = true → ∀ now m, ∃ id endpoints,
    (g.buildContext now f.serviceId m).2 = .ok (.new id f.serviceId endpoints ∅ false) ∧
      endpoints.entries.Perm (listedOnce f.fallbackUrls)

theorem buildContext_of_urls {now : Nat} {service : ServiceId} {m : RequestMetadata}
    (hg : g.fallbacks = fallbackSets p) (hurls : fallbackUrls p service ≠ []) :
    ∃ c, (g.buildContext now service m).2 = .ok c := by
  have hoffer : ∃ o, g.offer? now service m = some o := by
    by_cases hdiverted : Diverted p service
    · exact ⟨_, offer?_of_diverted hg hdiverted⟩
    · by_cases hopen : ∃ addr e, Open g now service m addr e
      · exact ⟨_, offer?_of_open hg hdiverted hopen⟩
      · have hclosed := offer?_of_closed hg hdiverted hopen
        rw [if_neg hurls] at hclosed
        exact ⟨_, hclosed⟩
  obtain ⟨o, hoffer⟩ := hoffer
  obtain ⟨id, hbuilt⟩ := buildContext_of_some hoffer
  exact ⟨_, hbuilt⟩

theorem honours_of_distinct (distinct : (p.serviceFallbacks.map ServiceFallback.serviceId).Nodup)
    (hg : g.fallbacks = fallbackSets p) (hf : f ∈ p.serviceFallbacks) (sound : f.Sound) :
    g.Honours f := by
  have hconfigured := configured?_of_mem distinct hf
  have hurls : fallbackUrls p f.serviceId = f.fallbackUrls := by
    rw [fallbackUrls, hconfigured]
    rfl
  have hall : sendsAll p f.serviceId = f.sendAllTraffic := by
    rw [sendsAll, hconfigured]
    rfl
  constructor
  · intro hlisted now m
    exact buildContext_of_urls hg (hurls ▸ hlisted)
  · intro hflag now m
    have hdiverted : Diverted p f.serviceId := ⟨hall.trans hflag, hurls ▸ sound.served hflag⟩
    obtain ⟨id, hbuilt⟩ := buildContext_of_some (offer?_of_diverted hg hdiverted)
    exact ⟨id, _, hbuilt, hurls ▸ entries_fallbackEndpoints (fallbackUrls p f.serviceId)⟩

end Gateway

variable {ω : Type} [Collaborators ω] {config : GatewayConfig}

/-- A new gateway keeps what a valid configuration says of fallbacks. It keeps it in every state that it
comes to, and honours it whatever the cache and the sanctions hold. -/
theorem GatewayConfig.fallbacks_honoured (valid : config.fault? = none) :
    (∀ outside : ω, (Gateway.new config outside).Keeps config.protocol) ∧
      ∀ o : Operation ω, Operation.Reachable config o → o.gateway.Keeps config.protocol ∧
        ∀ f ∈ config.protocol.serviceFallbacks, ∀ cache sanctions,
          Gateway.Honours { o.gateway with cache, sanctions } f := by
  have distinct := distinct_of_valid valid
  constructor
  · exact fun outside => Gateway.keeps_of_distinct distinct rfl
  · intro o h
    refine ⟨Gateway.keeps_of_distinct distinct h.fallbacks_eq, fun f hf cache sanctions => ?_⟩
    exact Gateway.honours_of_distinct distinct h.fallbacks_eq hf (sound_of_valid valid hf)

section Example

def repeatingConfig : GatewayConfig :=
  { (default : GatewayConfig) with protocol := ⟨"shannon",
    [⟨"eth", true, ["https://spare", "https://other", "https://spare"]⟩,
      ⟨"base", false, ["https://spare"]⟩]⟩ }

theorem valid_repeatingConfig : repeatingConfig.fault? = none := by decide +kernel

/-- The URL that is listed twice gives one endpoint. -/
theorem fallbacks_honoured_repeating :
    repeatingConfig.fault? = none ∧
      (Gateway.new repeatingConfig (default : Script)).Keeps repeatingConfig.protocol ∧
      ∀ cache sanctions now m, ∃ id endpoints,
        (({ Gateway.new repeatingConfig (default : Script) with cache, sanctions }).buildContext now
          "eth" m).2 = .ok (.new id "eth" endpoints ∅ false) ∧ endpoints.size = 2 := by
  obtain ⟨hnew, hreached⟩ := @GatewayConfig.fallbacks_honoured Script _ _ valid_repeatingConfig
  obtain ⟨-, hhonours⟩ := hreached _ (.begin repeatingConfig default)
  refine ⟨valid_repeatingConfig, hnew default, fun cache sanctions now m => ?_⟩
  obtain ⟨id, endpoints, hbuilt, hperm⟩ :=
    (hhonours _ List.mem_cons_self cache sanctions).diverted rfl now m
  exact ⟨id, endpoints, hbuilt, hperm.length_eq⟩

end Example

end RelayGateway
