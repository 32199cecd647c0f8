import RelayGateway.Proofs.Cache.Clash

/-! # Hints that narrow the endpoints of a service

A hint for an application answers from the session of that application, and a hint for a supplier leaves
out the other suppliers. With the first the endpoints are derived from the session anew and the suppliers
are left out before endpoints with one address are merged; without it they are left out of what was
merged over all sessions before. The two ways agree as long as no two suppliers share an address.
-/
namespace RelayGateway

namespace Snapshot
variable {s : Snapshot} {apps : List Application} {fetched : List (SessionJob × Session)}
variable {service : ServiceId} {app : String} {allowed : Option String} {addr : EndpointAddr}
variable {session session' : Session} {e e' : Endpoint}

/-- Of the entries that the sessions of a service list, those with one address have one supplier. -/
def Unambiguous (s : Snapshot) (service : ServiceId) : Prop :=
  ∀ supplier url supplier' url', Offers s.sessions.entries service supplier url →
    Offers s.sessions.entries service supplier' url' →
    EndpointAddr.of supplier url = EndpointAddr.of supplier' url' → supplier = supplier'

def Passes (allowed : Option String) (e : Endpoint) : Prop :=
  ∀ supplier, allowed = some supplier → e.supplier = supplier

/-! ## What each way answers -/

theorem find?_serviceEndpoints_all (s : Snapshot) (service : ServiceId) (allowed : Option String) :
    (s.serviceEndpoints service ⟨none, allowed⟩).find? addr = some e ↔
      (s.ofService service).find? addr = some e ∧ Passes allowed e := by
  cases allowed with
  | none => exact ⟨fun h => ⟨h, fun _ => nofun⟩, And.left⟩
  | some supplier =>
    unfold serviceEndpoints Passes
    dsimp only
    rw [Table.find?_filter, Option.filter_eq_some_iff, decide_eq_true_iff]
    refine and_congr_right fun _ => ⟨?_, fun h => h supplier rfl⟩
    rintro hsupplier _ ⟨⟩
    exact hsupplier

theorem find?_serviceEndpoints_app (s : Snapshot) (service : ServiceId) (app : String)
    (allowed : Option String) :
    (s.serviceEndpoints service ⟨some app, allowed⟩).find? addr = some e ↔
      ∃ session, s.session? service app = some session ∧
        (session.endpoints allowed).find? addr = some e := by
  unfold serviceEndpoints
  dsimp only
  cases s.session? service app with
  | none => exact ⟨nofun, nofun⟩
  | some session =>
    refine ⟨fun h => ⟨session, rfl, h⟩, ?_⟩
    rintro ⟨_, ⟨⟩, h⟩
    exact h

theorem mem_entries (h : s.session? service app = some session) :
    (⟨service, app⟩, session) ∈ s.sessions.entries :=
  (Table.find?_eq_some_iff ..).1 h

/-- Endpoints that sessions of an unambiguous service derive have one supplier if they have one address. -/
theorem Unambiguous.supplier_eq (h : s.Unambiguous service) {app' : String}
    (hsession : s.session? service app = some session)
    (hsession' : s.session? service app' = some session') {entry entry' : SupplierEndpoints}
    (derives : session.Derives none entry e) (derives' : session'.Derives none entry' e')
    (same : e.addr = e'.addr) : e.supplier = e'.supplier := by
  obtain ⟨hsupplier, hurl, haddr⟩ := derives.eq_of
  obtain ⟨hsupplier', hurl', haddr'⟩ := derives'.eq_of
  exact h _ _ _ _
    ⟨app, session, entry, mem_entries hsession, derives.listed, hsupplier.symm, hurl⟩
    ⟨app', session', entry', mem_entries hsession', derives'.listed, hsupplier'.symm, hurl'⟩
    (haddr.symm.trans (same.trans haddr'))

/-- Of the endpoints of a session, those of the supplier that is asked for are left. -/
theorem Unambiguous.find?_endpoints (h : s.Unambiguous service)
    (hsession : s.session? service app = some session) (allowed : Option String) :
    (session.endpoints allowed).find? addr = some e ↔
      (session.endpoints none).find? addr = some e ∧ Passes allowed e := by
  cases allowed with
  | none => exact ⟨fun h => ⟨h, fun _ => nofun⟩, And.left⟩
  | some supplier =>
    rw [Session.find?_endpoints_supplier supplier fun _ _ _ _ => h.supplier_eq hsession hsession,
      Option.filter_eq_some_iff, decide_eq_true_iff]
    refine and_congr_right fun _ => ⟨?_, fun h => h supplier rfl⟩
    rintro hsupplier _ ⟨⟩
    exact hsupplier

/-! ## How they agree -/

/-- The hints narrow the endpoints of a service alike, whichever of them are given. -/
structure Narrows (s : Snapshot) (service : ServiceId) : Prop where
  /-- With a hint for an application there are the addresses that its cached session lists. -/
  offered : ∀ app addr, (s.serviceEndpoints service ⟨some app, none⟩).contains addr = true ↔
    ∃ session entry url, s.session? service app = some session ∧ entry ∈ session.suppliers ∧
      entry.plainUrl? = some url ∧ EndpointAddr.of entry.supplier url = addr
  /-- Both hints leave what the supplier has of the endpoints that the application alone leaves. -/
  both : ∀ app supplier addr e,
    (s.serviceEndpoints service ⟨some app, some supplier⟩).find? addr = some e ↔
      (s.serviceEndpoints service ⟨some app, none⟩).find? addr = some e ∧ e.supplier = supplier
  /-- Without a hint for an application there are the addresses of all cached applications of the service,
  with a hint for a supplier and without one. -/
  union : ∀ allowed addr, (s.serviceEndpoints service ⟨none, allowed⟩).contains addr = true ↔
    ∃ app ∈ s.apps, app.serves service = true ∧
      (s.serviceEndpoints service ⟨some app.address, allowed⟩).contains addr = true
  /-- With a hint for an application every endpoint carries the cached session of that application. -/
  carried : ∀ app allowed addr e,
    (s.serviceEndpoints service ⟨some app, allowed⟩).find? addr = some e →
      ∃ session, s.session? service app = some session ∧ e.session = some session

theorem contains_iff {m : EndpointMap} : m.contains addr = true ↔ ∃ e, m.find? addr = some e :=
  Option.isSome_iff_exists

theorem contains_serviceEndpoints_app (s : Snapshot) (service : ServiceId) (app : String)
    (addr : EndpointAddr) :
    (s.serviceEndpoints service ⟨some app, none⟩).contains addr = true ↔
      ∃ session entry url, s.session? service app = some session ∧ entry ∈ session.suppliers ∧
        entry.plainUrl? = some url ∧ EndpointAddr.of entry.supplier url = addr := by
  simp only [contains_iff, find?_serviceEndpoints_app]
  constructor
  · rintro ⟨e, session, hsession, hfind⟩
    obtain ⟨⟨entry, hderives⟩, haddr⟩ := Session.derives_of_find? hfind
    obtain ⟨hsupplier, hurl, hown⟩ := hderives.eq_of
    rw [hsupplier, haddr] at hown
    exact ⟨session, entry, e.url, hsession, hderives.listed, hurl, hown.symm⟩
  · rintro ⟨session, entry, url, hsession, hentry, hurl, rfl⟩
    have hexists : ∃ e, session.Derives none entry e ∧ e.addr = EndpointAddr.of entry.supplier url :=
      Session.exists_derives hentry rfl hurl
    obtain ⟨e, hderives, haddr⟩ := hexists
    obtain ⟨e', hfind⟩ := contains_iff.1 hderives.contains
    exact ⟨e', session, hsession, haddr ▸ hfind⟩

theorem both_of_unambiguous (h : s.Unambiguous service) (app supplier : String) :
    (s.serviceEndpoints service ⟨some app, some supplier⟩).find? addr = some e ↔
      (s.serviceEndpoints service ⟨some app, none⟩).find? addr = some e ∧ e.supplier = supplier := by
  rw [find?_serviceEndpoints_app, find?_serviceEndpoints_app]
  constructor
  · rintro ⟨session, hsession, hfind⟩
    obtain ⟨hfind, hpasses⟩ := (h.find?_endpoints hsession _).1 hfind
    exact ⟨⟨session, hsession, hfind⟩, hpasses supplier rfl⟩
  · rintro ⟨⟨session, hsession, hfind⟩, rfl⟩
    refine ⟨session, hsession, (h.find?_endpoints hsession _).2 ⟨hfind, ?_⟩⟩
    rintro _ ⟨⟩
    rfl

/-- What one session derives for an address has the supplier of what the service has under it. -/
theorem union_of_unambiguous (h : s.Unambiguous service) (shows : s.Shows apps fetched)
    (allowed : Option String) (addr : EndpointAddr) :
    (s.serviceEndpoints service ⟨none, allowed⟩).contains addr = true ↔
      ∃ app, (s.serviceEndpoints service ⟨some app, allowed⟩).contains addr = true := by
  have hcached : ∀ {app session}, s.session? service app = some session ↔
      (⟨service, app⟩, session) ∈ fetched :=
    fun {app session} => shows.sessions ⟨service, app⟩ session
  simp only [contains_iff, find?_serviceEndpoints_all, find?_serviceEndpoints_app, shows.endpoints]
  constructor
  · rintro ⟨e, ⟨session, ⟨app, hmem, -, -⟩, hfind⟩, hpasses⟩
    exact ⟨app, e, session, hcached.2 hmem, (h.find?_endpoints (hcached.2 hmem) _).2 ⟨hfind, hpasses⟩⟩
  · rintro ⟨app, e, session, hsession, hfind⟩
    obtain ⟨hfind, hpasses⟩ := (h.find?_endpoints hsession _).1 hfind
    obtain ⟨first, hfirst⟩ := exists_firstWith (hcached.1 hsession) (contains_iff.2 ⟨e, hfind⟩)
    obtain ⟨app', hmem', hcontains', -⟩ := id hfirst
    obtain ⟨e', hfind'⟩ := contains_iff.1 hcontains'
    refine ⟨e', ⟨first, hfirst, hfind'⟩, ?_⟩
    -- The endpoint that was seen first need not be this one, but it has the same supplier.
    obtain ⟨⟨entry, hderives⟩, haddr⟩ := Session.derives_of_find? hfind
    obtain ⟨⟨entry', hderives'⟩, haddr'⟩ := Session.derives_of_find? hfind'
    have hsupplier : e'.supplier = e.supplier :=
      h.supplier_eq (hcached.2 hmem') hsession hderives' hderives (haddr'.trans haddr.symm)
    intro supplier hallowed
    exact hsupplier.trans (hpasses supplier hallowed)

theorem carried_session (hfind : (s.serviceEndpoints service ⟨some app, allowed⟩).find? addr = some e) :
    ∃ session, s.session? service app = some session ∧ e.session = some session := by
  obtain ⟨session, hsession, hfind⟩ := (find?_serviceEndpoints_app ..).1 hfind
  obtain ⟨⟨entry, hderives⟩, -⟩ := Session.derives_of_find? hfind
  exact ⟨session, hsession, hderives.session⟩

end Snapshot

/-! ## Every refresh -/

namespace Refresh
open RoundEvent
variable {ω : Type} [Collaborators ω] {config : CacheConfig} {turns : List (ChainTurn ω)}
variable {last : ChainTurn ω} {stats : RefreshStats} {service : ServiceId} {app : String}

/-- A snapshot has sessions of the applications that it lists, on services that they name. -/
theorem Course.names (h : Course config turns (.done (.ok stats)))
    (hlast : turns.getLast? = some last) {session : Session}
    (hsession : last.after.cache.snapshot.session? service app = some session) :
    ∃ a ∈ last.after.cache.snapshot.apps, a.serves service = true ∧ a.address = app := by
  cases h.stands with
  | @refreshed apps events earlier last' gathers fetched split publishes quiet =>
    have hsame : last' = last := by
      rw [split, List.getLast?_concat] at hlast
      exact Option.some.inj hlast
    subst hsame
    rw [publishes.snapshot] at hsession ⊢
    have hnodup := gathers.account.nodup_sessions (SessionJob.nodup_ofApps apps)
    have hfetched : (⟨service, app⟩, session) ∈ sessions events := (Snapshot.find?_sessions hnodup).1 hsession
    obtain ⟨a, hmem, hservice, haddress⟩ :=
      SessionJob.mem_ofApps.1 (gathers.account.job_of_fetched hfetched)
    exact ⟨a, hmem, List.contains_iff_mem.2 hservice, haddress.symm⟩

/-- After every refresh that succeeds the hints agree on each service that is unambiguous. -/
theorem Course.narrows (h : Course config turns (.done (.ok stats)))
    (hlast : turns.getLast? = some last)
    (unambiguous : last.after.cache.snapshot.Unambiguous service) :
    last.after.cache.snapshot.Narrows service := by
  obtain ⟨apps, events, hbuilt⟩ := h.built hlast
  refine ⟨Snapshot.contains_serviceEndpoints_app _ service,
    fun app supplier addr e => Snapshot.both_of_unambiguous unambiguous app supplier, ?_,
    fun app allowed addr e => Snapshot.carried_session⟩
  intro allowed addr
  rw [Snapshot.union_of_unambiguous unambiguous hbuilt.shows]
  constructor
  · rintro ⟨app, hcontains⟩
    obtain ⟨e, hfind⟩ := Snapshot.contains_iff.1 hcontains
    obtain ⟨session, hsession, -⟩ := Snapshot.carried_session hfind
    obtain ⟨a, hmem, hserves, rfl⟩ := h.names hlast hsession
    exact ⟨a, hmem, hserves, hcontains⟩
  · rintro ⟨a, -, -, hcontains⟩
    exact ⟨a.address, hcontains⟩

section Example

def sharingApps : List Application := [⟨"app2", "", ["eth"]⟩, ⟨"app1", "", ["eth"]⟩]

/-- The first application has a supplier with two entries for one address; the second shares it. -/
def sharingFetched : List (SessionJob × Session) :=
  [(⟨"eth", "app1"⟩, ⟨⟨"session1", "eth", "app1", 1, 60⟩, none,
      [⟨"node", [⟨.jsonRpc, "https://node"⟩]⟩,
        ⟨"node", [⟨.websocket, "wss://node"⟩, ⟨.jsonRpc, "https://node"⟩]⟩,
        ⟨"own", [⟨.jsonRpc, "https://own"⟩]⟩]⟩),
    (⟨"eth", "app2"⟩, ⟨⟨"session2", "eth", "app2", 1, 60⟩, none,
      [⟨"other", [⟨.jsonRpc, "https://node"⟩]⟩, ⟨"node", [⟨.jsonRpc, "https://node"⟩]⟩]⟩)]

def sharingScript : Script :=
  { (default : Script) with
    chain := { (default : ChainScript) with
      apps := sharingApps
      sessions := sharingFetched.map fun x =>
        ⟨x.1.serviceId, x.1.appAddress, some x.2, none, none⟩ } }

def sharingView : ChainView Script := ⟨SessionCache.new default, none, sharingScript, []⟩

def sharingTurn : ChainTurn Script := ⟨0, sharingView, (start 0 sharingView).1⟩

theorem start_sharing : start 0 sharingView = gather 0 sharingApps
    { sharingView with
      cache := { sharingView.cache with appsSeen := true }
      outside := (Collaborators.fetchApps 0 sharingScript).2 }
    ⟨sharingFetched.map Prod.fst, [], []⟩ :=
  start_of_listed rfl (by cbv) nofun

theorem course_sharing : Course (default : CacheConfig) [sharingTurn]
    (.done (.ok (statsOf sharingApps (Snapshot.assemble sharingFetched)))) := by
  have hcourse : Course (default : CacheConfig) [sharingTurn] (start 0 sharingView).2 := .start rfl
  rw [start_sharing] at hcourse
  exact hcourse

theorem unambiguous_sharing : sharingTurn.after.cache.snapshot.Unambiguous "eth" := by
  have hsnapshot : sharingTurn.after.cache.snapshot = Snapshot.built 0 sharingApps sharingFetched := by
    unfold sharingTurn
    rw [start_sharing]
    rfl
  have hentries : ∀ x, x ∈ sharingTurn.after.cache.snapshot.sessions.entries → x ∈ sharingFetched := by
    have hnodup : (sharingFetched.map Prod.fst).Nodup := by decide
    intro x hx
    rw [hsnapshot, Snapshot.built, Snapshot.entries_sessions hnodup] at hx
    exact Snapshot.mem_inOrder.1 hx
  have halike : ∀ x ∈ sharingFetched, ∀ y ∈ sharingFetched, ∀ entry ∈ x.2.suppliers,
      ∀ entry' ∈ y.2.suppliers, entry.plainUrl?.map (EndpointAddr.of entry.supplier) =
        entry'.plainUrl?.map (EndpointAddr.of entry'.supplier) → entry.supplier = entry'.supplier := by
    decide +kernel
  rintro _ url _ url' ⟨app, session, entry, hmem, hentry, rfl, hurl⟩
    ⟨app', session', entry', hmem', hentry', rfl, hurl'⟩ hsame
  refine halike _ (hentries _ hmem) _ (hentries _ hmem') entry hentry entry' hentry' ?_
  rw [hurl, hurl', Option.map_some, Option.map_some, hsame]

theorem narrows_sharing :
    (∃ stats, Course (default : CacheConfig) [sharingTurn] (.done (.ok stats))) ∧
    [sharingTurn].getLast? = some sharingTurn ∧
    sharingTurn.after.cache.snapshot.Unambiguous "eth" ∧
    sharingTurn.after.cache.snapshot.Narrows "eth" :=
  ⟨⟨_, course_sharing⟩, rfl, unambiguous_sharing, course_sharing.narrows rfl unambiguous_sharing⟩

end Example

end Refresh
end RelayGateway
