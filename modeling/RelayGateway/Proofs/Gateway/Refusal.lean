import Mathlib.Data.List.Permutation
import RelayGateway.Proofs.Cache.Traffic
import RelayGateway.Proofs.Gateway.Offer
import RelayGateway.Script

/-! # When a service is refused

Sessions of a service that share an endpoint leave it to the least application: the snapshot keeps the
endpoint with that session, and with that session it is checked against the sanctions. A service is
refused when all endpoints are sanctioned for the sessions that they are kept with.
-/
namespace RelayGateway
open Relation

/-! ## Endpoints of sessions -/

namespace Session
variable {s : Session} {allowed : Option String} {addr : EndpointAddr} {e : Endpoint}

/-- An endpoint that is derived from a session carries it. -/
theorem session_of_endpoints (h : (s.endpoints allowed).find? addr = some e) :
    e.session = some s ∧ e.addr = addr := by
  obtain ⟨⟨supplier, hderives⟩, haddr⟩ := derives_of_find? h
  obtain ⟨url, -, rfl⟩ := Option.map_eq_some_iff.1 hderives.derived
  exact ⟨rfl, haddr⟩

end Session

def SanctionStore.Sanctions (s : SanctionStore) (now : Nat) (session : Session) (addr : EndpointAddr) :
    Prop :=
  (s.permanent.find? addr).isSome = true ∨
    (s.session.find? now ⟨session.appAddress, session.id, addr⟩).isSome = true

theorem SanctionStore.reason?_eq_none_iff {s : SanctionStore} {now : Nat} {session : Session}
    {addr : EndpointAddr} {e : Endpoint} (h : (session.endpoints none).find? addr = some e) :
    s.reason? now e = none ↔ ¬ s.Sanctions now session addr := by
  obtain ⟨hsession, rfl⟩ := Session.session_of_endpoints h
  have hkey : e.sanctionKey? = some ⟨session.appAddress, session.id, e.addr⟩ := by
    unfold Endpoint.sanctionKey? Endpoint.header?
    rw [hsession]
    rfl
  unfold reason? Sanctions
  rw [hkey]
  cases s.permanent.find? e.addr with
  | some sanction => simp
  | none => simp

namespace Traffic
variable {ω : Type} [Collaborators ω] {config : GatewayConfig} {t : Traffic ω} {service : ServiceId}
variable {addr : EndpointAddr} {e : Endpoint} {session first : Session} {now : Nat}

/-! ## The endpoints of a service -/

def Gives (t : Traffic ω) (service : ServiceId) (session : Session) (addr : EndpointAddr) : Prop :=
  ∃ app, t.snapshot.sessions.find? ⟨service, app⟩ = some session ∧
    (session.endpoints none).contains addr = true

/-- Of the published sessions of a service that give the address, it is the one of the least
application. -/
def Keeps (t : Traffic ω) (service : ServiceId) (session : Session) (addr : EndpointAddr) : Prop :=
  Snapshot.FirstWith t.snapshot.sessions.entries service addr session

/-- The endpoints of a service are those of its published sessions, each with the session of the least
application that gives it. -/
theorem Sound.find?_ofService (h : Sound config t) :
    (t.snapshot.ofService service).find? addr = some e ↔
      ∃ session, Keeps t service session addr ∧ (session.endpoints none).find? addr = some e := by
  rcases h.published with hblank | hpublished
  · -- Before the first refresh there is neither an endpoint nor a session.
    have hempty : t.snapshot = Snapshot.empty := hblank.snapshot
    unfold Keeps
    rw [hempty]
    constructor
    · nofun
    · rintro ⟨session, ⟨app, hmem, -⟩, -⟩
      cases hmem
  · obtain ⟨id, turns, last, stats, apps, events, -, hbuilt⟩ := h.built hpublished
    have hsessions : ∀ x, x ∈ t.snapshot.sessions.entries ↔ x ∈ RoundEvent.sessions events := by
      intro x
      rw [← Table.find?_eq_some_iff]
      exact hbuilt.shows.sessions x.1 x.2
    rw [hbuilt.shows.endpoints]
    unfold Keeps
    simp only [Snapshot.firstWith_congr hsessions]

omit [Collaborators ω] in
theorem Gives.exists_keeps (h : Gives t service session addr) :
    ∃ first, Keeps t service first addr := by
  obtain ⟨app, hfind, hcontains⟩ := h
  exact Snapshot.exists_firstWith ((Table.find?_eq_some_iff ..).1 hfind) hcontains

/-! ## Refusals -/

/-- Without hints, an endpoint is open exactly when it is not sanctioned for the session it is kept
with. -/
theorem Sound.open_iff (h : Sound config t) :
    Gateway.Open t.gateway now service ⟨none, none⟩ addr e ↔
      ∃ session, Keeps t service session addr ∧ (session.endpoints none).find? addr = some e ∧
        ¬ t.gateway.sanctions.Sanctions now session addr := by
  have hfind : (t.gateway.serviceEndpoints service ⟨none, none⟩).find? addr = some e ↔ _ :=
    h.find?_ofService
  unfold Gateway.Open
  rw [hfind]
  constructor
  · rintro ⟨⟨session, hkeeps, hderived⟩, hreason⟩
    exact ⟨session, hkeeps, hderived, (SanctionStore.reason?_eq_none_iff hderived).1 hreason⟩
  · rintro ⟨session, hkeeps, hderived, hfree⟩
    exact ⟨⟨session, hkeeps, hderived⟩, (SanctionStore.reason?_eq_none_iff hderived).2 hfree⟩

/-- A service without fallbacks is offered every endpoint that is not sanctioned for the session it is
kept with. -/
theorem Sound.offers (h : Sound config t) (hurls : Gateway.fallbackUrls config.protocol service = [])
    (hkeeps : Keeps t service session addr)
    (hfree : ¬ t.gateway.sanctions.Sanctions now session addr) :
    ∃ c e, (t.gateway.buildContext now service ⟨none, none⟩).2 = .ok c ∧
      (session.endpoints none).find? addr = some e ∧ c.endpoints.find? addr = some e := by
  obtain ⟨app, -, hcontains, -⟩ := id hkeeps
  obtain ⟨e, hderived⟩ := Option.isSome_iff_exists.1 hcontains
  have hopen : Gateway.Open t.gateway now service ⟨none, none⟩ addr e :=
    h.open_iff.2 ⟨session, hkeeps, hderived, hfree⟩
  have hdiverted : ¬ Gateway.Diverted config.protocol service := fun hd => hd.2 hurls
  obtain ⟨id, hbuilt⟩ := Gateway.buildContext_of_some
    (Gateway.offer?_of_open h.fallbacks hdiverted ⟨addr, e, hopen⟩)
  exact ⟨_, e, hbuilt, hderived, Gateway.find?_allowed.2 hopen⟩

/-- A service without fallbacks is refused only if every endpoint that one of its sessions gives is
sanctioned for the session of the least application that gives it; an endpoint that is not sanctioned
for that session is offered. -/
theorem Reached.refused (h : Reached config t)
    (hurls : Gateway.fallbackUrls config.protocol service = []) (now : Nat) :
    (∀ refusal, (t.gateway.buildContext now service ⟨none, none⟩).2 = .error refusal →
        ∀ session addr, Gives t service session addr → ∃ first, Keeps t service first addr ∧
          t.gateway.sanctions.Sanctions now first addr) ∧
      ∀ first addr, Keeps t service first addr → ¬ t.gateway.sanctions.Sanctions now first addr →
        ∃ c e, (t.gateway.buildContext now service ⟨none, none⟩).2 = .ok c ∧
          (first.endpoints none).find? addr = some e ∧ c.endpoints.find? addr = some e := by
  have hsound := h.sound
  refine ⟨?_, fun first addr => hsound.offers hurls⟩
  intro refusal hrefused session addr hgives
  obtain ⟨first, hkeeps⟩ := hgives.exists_keeps
  refine ⟨first, hkeeps, Classical.byContradiction fun hfree => ?_⟩
  obtain ⟨c, e, hbuilt, -⟩ := hsound.offers hurls hkeeps hfree
  rw [hrefused] at hbuilt
  cases hbuilt

/-! ## Two applications with one supplier -/

section Example

/-- A refusal means that every endpoint is sanctioned for every session that gives it, and an endpoint
that is not sanctioned for one of them is offered. -/
def Truthful (t : Traffic ω) (now : Nat) (service : ServiceId) : Prop :=
  (∀ refusal, (t.gateway.buildContext now service ⟨none, none⟩).2 = .error refusal →
      ∀ session addr, Gives t service session addr →
        t.gateway.sanctions.Sanctions now session addr) ∧
    ∀ session addr, Gives t service session addr → ¬ t.gateway.sanctions.Sanctions now session addr →
      ∃ c, (t.gateway.buildContext now service ⟨none, none⟩).2 = .ok c ∧
        c.endpoints.contains addr = true

def sharing (app : String) : Session :=
  ⟨⟨"session of " ++ app, "eth", app, 1, 60⟩, none, [⟨"node", [⟨.jsonRpc, "https://node"⟩]⟩]⟩

def sharingApps : List Application := [⟨"app1", "", ["eth"]⟩, ⟨"app2", "", ["eth"]⟩]

def sharingScript : Script :=
  { (default : Script) with
    chain := { (default : ChainScript) with
      apps := sharingApps
      sessions := [⟨"eth", "app1", some (sharing "app1"), none, none⟩,
        ⟨"eth", "app2", some (sharing "app2"), none, none⟩] } }

def shared : Traffic Script := (begin default sharingScript).refresh 0 0

def sharedEndpoint (app : String) : Endpoint := .ofSession "node" "https://node" none (sharing app)

def timedOut : EndpointObservation :=
  .failure (sharedEndpoint "app1") "https://node" (.ofMillis 1) (.ofMillis 2) .timeout "" .session

def sanctioned : Traffic Script :=
  { shared with
    gateway := shared.gateway.applyObservations 10 ⟨Uuid.ofNat 0, "eth", none, [timedOut]⟩ }

theorem reached_sanctioned : Reached default sanctioned :=
  ((Reached.begin default sharingScript).refresh 0 0).move (.other (.refl _) rfl)

def sharingFetched : List (SessionJob × Session) :=
  [(⟨"eth", "app1"⟩, sharing "app1"), (⟨"eth", "app2"⟩, sharing "app2")]

theorem inOrder_sharing : Snapshot.inOrder sharingFetched = sharingFetched := by cbv

theorem nodup_sharing : (sharingFetched.map Prod.fst).Nodup := by
  simp [sharingFetched]

theorem snapshot_sanctioned :
    sanctioned.snapshot = Snapshot.built 0 sharingApps sharingFetched := by
  have hjobs : SessionJob.ofApps sharingApps = sharingFetched.map Prod.fst := by cbv
  have hsnapshot : sanctioned.snapshot = (Refresh.gather 0 sharingApps
      ⟨{ SessionCache.new default with appsSeen := true }, some (RolloverMonitor.new default),
        (Collaborators.fetchApps 0 sharingScript).2, []⟩
      ⟨SessionJob.ofApps sharingApps, [], []⟩).1.cache.snapshot := rfl
  rw [hsnapshot, hjobs]
  rfl

theorem refused_sanctioned :
    (sanctioned.gateway.buildContext 20 "eth" ⟨none, none⟩).2 = .error ⟨"eth"⟩ := by
  refine Gateway.buildContext_of_none (Option.isNone_iff_eq_none.1 ?_)
  have hendpoints : sanctioned.gateway.serviceEndpoints "eth" ⟨none, none⟩ =
      (sharingFetched.foldl Snapshot.Assembly.add ⟨∅, ∅, 0⟩).ofService "eth" := by
    have hservice : sanctioned.gateway.serviceEndpoints "eth" ⟨none, none⟩ =
        sanctioned.snapshot.ofService "eth" := rfl
    rw [hservice, snapshot_sanctioned, Snapshot.built, Snapshot.assemble, inOrder_sharing]
    rfl
  unfold Gateway.offer?
  rw [hendpoints]
  decide +kernel

/-- The other session is free at once, and the first one when its sanction has expired. -/
theorem free_sanctioned :
    ¬ sanctioned.gateway.sanctions.Sanctions 20 (sharing "app2") (sharedEndpoint "app2").addr ∧
      ¬ sanctioned.gateway.sanctions.Sanctions 3600010 (sharing "app1")
        (sharedEndpoint "app1").addr := by
  unfold SanctionStore.Sanctions
  decide +kernel

theorem contains_sharing (app : String) :
    ((sharing app).endpoints none).contains (sharedEndpoint app).addr = true := by
  have hallowed : Session.allows none ⟨"node", [⟨.jsonRpc, "https://node"⟩]⟩ = true := rfl
  obtain ⟨e, hderives, haddr⟩ := Session.exists_derives (s := sharing app)
    (List.mem_singleton_self _) hallowed rfl
  have hcontains := hderives.contains
  rw [haddr] at hcontains
  exact hcontains

/-- The second application's session gives the endpoint, and it is not sanctioned for that session; the
service is refused all the same. -/
theorem refused_though_free :
    Reached default sanctioned ∧ Gateway.fallbackUrls (default : GatewayConfig).protocol "eth" = [] ∧
      ¬ Truthful sanctioned 20 "eth" := by
  refine ⟨reached_sanctioned, rfl, fun htruthful => ?_⟩
  have hgives : Gives sanctioned "eth" (sharing "app2") (sharedEndpoint "app2").addr := by
    refine ⟨"app2", ?_, contains_sharing "app2"⟩
    rw [snapshot_sanctioned]
    exact (Snapshot.find?_sessions nodup_sharing).2 (by simp [sharingFetched])
  exact free_sanctioned.1 (htruthful.1 _ refused_sanctioned _ _ hgives)

theorem keeps_sanctioned :
    Keeps sanctioned "eth" (sharing "app1") (sharedEndpoint "app1").addr := by
  have hentries : sanctioned.snapshot.sessions.entries = sharingFetched := by
    rw [snapshot_sanctioned]
    exact (Snapshot.entries_sessions nodup_sharing).trans inOrder_sharing
  have hleast : ∀ x ∈ sharingFetched, "app1" ≤ x.1.appAddress := by
    have hlt : "app1" ≤ "app2" := by decide
    simp [sharingFetched, hlt]
  unfold Keeps
  rw [hentries]
  exact ⟨"app1", List.mem_cons_self, contains_sharing "app1", fun _ _ hmem _ => hleast _ hmem⟩

/-- The refusal is right about the first application's session, and ends with the sanction. -/
theorem refused_until_expiry :
    (∃ first, Keeps sanctioned "eth" first (sharedEndpoint "app1").addr ∧
        sanctioned.gateway.sanctions.Sanctions 20 first (sharedEndpoint "app1").addr) ∧
      ∃ c e, (sanctioned.gateway.buildContext 3600010 "eth" ⟨none, none⟩).2 = .ok c ∧
        ((sharing "app1").endpoints none).find? (sharedEndpoint "app1").addr = some e ∧
          c.endpoints.find? (sharedEndpoint "app1").addr = some e := by
  have hgives : Gives sanctioned "eth" (sharing "app1") (sharedEndpoint "app1").addr := by
    obtain ⟨app, hmem, hcontains, -⟩ := keeps_sanctioned
    exact ⟨app, (Table.find?_eq_some_iff ..).2 hmem, hcontains⟩
  exact ⟨(reached_sanctioned.refused rfl 20).1 _ refused_sanctioned _ _ hgives,
    (reached_sanctioned.refused rfl 3600010).2 _ _ keeps_sanctioned free_sanctioned.2⟩

end Example

end Traffic
end RelayGateway
