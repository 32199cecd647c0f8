import RelayGateway.Proofs.Cache.Published

/-! # Addresses that clash

An address joins a supplier and a URL by a dash, and there may be dashes in both. Two pairs have one
address when they cut it at different dashes, and then only one of them is among the endpoints of the
service. Every other supplier of a fetched session is there with its last plain URL.
-/
namespace RelayGateway

namespace EndpointAddr
variable {supplier url supplier' url' : String}

/-- The first pair cuts the address of the second at an earlier dash. -/
def CutsEarlier (supplier url supplier' url' : String) : Prop :=
  ∃ between, supplier' = supplier ++ "-" ++ between ∧ url = between ++ "-" ++ url'

def Clash (supplier url supplier' url' : String) : Prop :=
  CutsEarlier supplier url supplier' url' ∨ CutsEarlier supplier' url' supplier url

theorem CutsEarlier.of_eq (h : CutsEarlier supplier url supplier' url') :
    of supplier url = of supplier' url' := by
  obtain ⟨between, rfl, rfl⟩ := h
  simp [of, String.append_assoc]

theorem CutsEarlier.supplier_ne (h : CutsEarlier supplier url supplier' url') :
    supplier ≠ supplier' := by
  obtain ⟨between, rfl, -⟩ := h
  intro heq
  have hlength := congrArg String.length heq
  simp only [String.length_append] at hlength
  have hdash : "-".length = 1 := rfl
  omega

theorem eq_or_cutsEarlier {between : List Char}
    (hsupplier : supplier'.toList = supplier.toList ++ between)
    (hurl : '-' :: url.toList = between ++ '-' :: url'.toList) :
    supplier = supplier' ∧ url = url' ∨ CutsEarlier supplier url supplier' url' := by
  cases between with
  | nil =>
    rw [List.append_nil] at hsupplier
    exact .inl ⟨String.toList_inj.1 hsupplier.symm, String.toList_inj.1 (List.cons.inj hurl).2⟩
  | cons c between =>
    obtain ⟨rfl, -⟩ := List.cons.inj hurl
    have hrest : url.toList = between ++ '-' :: url'.toList := (List.cons.inj hurl).2
    refine .inr ⟨String.ofList between, String.toList_inj.1 ?_, String.toList_inj.1 ?_⟩
    · simp [hsupplier, String.toList_append]
    · simp [hrest, String.toList_append]

/-- Different pairs have one address if and only if they clash. -/
theorem of_eq_iff : of supplier url = of supplier' url' ↔
    supplier = supplier' ∧ url = url' ∨ Clash supplier url supplier' url' := by
  constructor
  · intro h
    have hchars : supplier.toList ++ '-' :: url.toList = supplier'.toList ++ '-' :: url'.toList := by
      have hlist := congrArg String.toList (EndpointAddr.mk.inj h)
      simpa [String.toList_append] using hlist
    rcases List.append_eq_append_iff.1 hchars with ⟨between, hsupplier, hurl⟩ | ⟨between, hsupplier, hurl⟩
    · exact (eq_or_cutsEarlier hsupplier hurl).imp_right .inl
    · rcases eq_or_cutsEarlier hsupplier hurl with ⟨rfl, rfl⟩ | hcuts
      · exact .inl ⟨rfl, rfl⟩
      · exact .inr (.inr hcuts)
  · rintro (⟨rfl, rfl⟩ | hcuts | hcuts)
    · rfl
    · exact hcuts.of_eq
    · exact hcuts.of_eq.symm

theorem Clash.supplier_ne (h : Clash supplier url supplier' url') : supplier ≠ supplier' :=
  h.elim CutsEarlier.supplier_ne fun h => h.supplier_ne.symm

end EndpointAddr

/-! ## The suppliers of a service -/

namespace Snapshot
open EndpointAddr
variable {s : Snapshot} {apps : List Application} {fetched : List (SessionJob × Session)}
variable {service : ServiceId} {supplier url : String} {addr : EndpointAddr} {e : Endpoint}

/-- A session that was fetched for the service lists the supplier, and the URL is the last plain one that
it lists for it. -/
def Offers (fetched : List (SessionJob × Session)) (service : ServiceId) (supplier url : String) :
    Prop :=
  ∃ app session entry, (⟨service, app⟩, session) ∈ fetched ∧ entry ∈ session.suppliers ∧
    entry.supplier = supplier ∧ entry.plainUrl? = some url

/-- The endpoints of a service stand for the suppliers that its sessions offer. -/
structure Represents (fetched : List (SessionJob × Session)) (service : ServiceId) (m : EndpointMap) :
    Prop where
  /-- Every endpoint stands for its own supplier and URL, under their address. -/
  only : ∀ addr e, m.find? addr = some e → addr = .of e.supplier e.url ∧
    Offers fetched service e.supplier e.url
  /-- Everything offered has an endpoint under its address, its own or that of something offered that
  clashes with it. -/
  kept : ∀ supplier url, Offers fetched service supplier url → ∃ e, m.find? (.of supplier url) = some e ∧
    (e.supplier = supplier ∧ e.url = url ∨
      Offers fetched service e.supplier e.url ∧ Clash e.supplier e.url supplier url)
  /-- What clashes with nothing that is offered has its own. -/
  own : ∀ supplier url, Offers fetched service supplier url →
    (∀ supplier' url', Offers fetched service supplier' url' → ¬ Clash supplier' url' supplier url) →
    ∃ e, m.find? (.of supplier url) = some e ∧ e.supplier = supplier ∧ e.url = url
  /-- Of two that clash one is lost. -/
  lost : ∀ supplier url supplier' url', Clash supplier url supplier' url' →
    (∃ addr e, m.find? addr = some e ∧ e.supplier = supplier ∧ e.url = url) →
    ¬ ∃ addr e, m.find? addr = some e ∧ e.supplier = supplier' ∧ e.url = url'

theorem Shows.only (h : s.Shows apps fetched) (hfind : (s.ofService service).find? addr = some e) :
    addr = .of e.supplier e.url ∧ Offers fetched service e.supplier e.url := by
  obtain ⟨session, ⟨app, hmem, -, -⟩, he⟩ := (h.endpoints service addr e).1 hfind
  obtain ⟨⟨entry, hderives⟩, rfl⟩ := Session.derives_of_find? he
  obtain ⟨hsupplier, hurl, haddr⟩ := hderives.eq_of
  exact ⟨haddr, app, session, entry, hmem, hderives.listed, hsupplier.symm, hurl⟩

theorem Shows.exists_endpoint (h : s.Shows apps fetched) (hoffers : Offers fetched service supplier url) :
    ∃ e, (s.ofService service).find? (.of supplier url) = some e := by
  obtain ⟨app, session, entry, hmem, hlisted, rfl, hurl⟩ := hoffers
  have hallowed : Session.allows none entry = true := rfl
  obtain ⟨e, hderives, haddr⟩ := Session.exists_derives hlisted hallowed hurl
  obtain ⟨first, hfirst⟩ := exists_firstWith hmem (haddr ▸ hderives.contains)
  obtain ⟨-, -, hcontains, -⟩ := id hfirst
  obtain ⟨e', he'⟩ := Option.isSome_iff_exists.1 hcontains
  exact ⟨e', (h.endpoints service _ e').2 ⟨first, hfirst, he'⟩⟩

theorem represents_of_shows (h : s.Shows apps fetched) (service : ServiceId) :
    Represents fetched service (s.ofService service) := by
  have hkept : ∀ supplier url, Offers fetched service supplier url →
      ∃ e, (s.ofService service).find? (.of supplier url) = some e ∧
        (e.supplier = supplier ∧ e.url = url ∨
          Offers fetched service e.supplier e.url ∧ Clash e.supplier e.url supplier url) := by
    intro supplier url hoffers
    obtain ⟨e, he⟩ := h.exists_endpoint hoffers
    obtain ⟨haddr, hoffered⟩ := h.only he
    refine ⟨e, he, (of_eq_iff.1 haddr.symm).imp_right fun hclash => ⟨hoffered, hclash⟩⟩
  refine ⟨fun addr e => h.only, hkept, ?_, ?_⟩
  · intro supplier url hoffers hclashes
    obtain ⟨e, he, hown | ⟨hoffered, hclash⟩⟩ := hkept supplier url hoffers
    · exact ⟨e, he, hown⟩
    · exact absurd hclash (hclashes _ _ hoffered)
  · rintro supplier url supplier' url' hclash ⟨addr, e, he, rfl, rfl⟩ ⟨addr', e', he', rfl, rfl⟩
    -- Both stand under the one address, so they are one endpoint, of one supplier.
    rw [(h.only he).1] at he
    rw [(h.only he').1, ← of_eq_iff.2 (.inr hclash), he] at he'
    cases he'
    exact hclash.supplier_ne rfl

end Snapshot

/-! ## Every refresh -/

namespace Refresh
open RoundEvent
variable {ω : Type} [Collaborators ω] {config : CacheConfig} {turns : List (ChainTurn ω)}
variable {last : ChainTurn ω} {stats : RefreshStats}

/-- Whatever the chain answers, after a refresh that succeeds every supplier that a fetched session of a
service lists with a plain URL has its endpoint, unless it clashes with another one. -/
theorem Course.represents (h : Course config turns (.done (.ok stats)))
    (hlast : turns.getLast? = some last) :
    ∃ apps events, Built config turns last apps events last.after.cache.snapshot ∧
      ∀ service, Snapshot.Represents (sessions events) service
        (last.after.cache.snapshot.serviceEndpoints service ⟨none, none⟩) := by
  obtain ⟨apps, events, hbuilt⟩ := h.built hlast
  exact ⟨apps, events, hbuilt, Snapshot.represents_of_shows hbuilt.shows⟩

section Example

def clashingSession : Session :=
  ⟨⟨"session", "eth", "app", 1, 60⟩, some ⟨"app", "", ["eth"]⟩,
    [⟨"node", [⟨.grpc, "us-east:443"⟩]⟩, ⟨"node-us", [⟨.grpc, "east:443"⟩]⟩,
      ⟨"other", [⟨.grpc, "west:443"⟩]⟩]⟩

def clashingScript : Script :=
  { (default : Script) with
    chain := { (default : ChainScript) with
      apps := [⟨"app", "", ["eth"]⟩]
      sessions := [⟨"eth", "app", some clashingSession, none, none⟩] } }

def clashingView : ChainView Script := ⟨SessionCache.new default, none, clashingScript, []⟩

def clashingTurn : ChainTurn Script := ⟨0, clashingView, (start 0 clashingView).1⟩

def clashingFetched : List (SessionJob × Session) := [(⟨"eth", "app"⟩, clashingSession)]

theorem start_clashing : start 0 clashingView = gather 0 [⟨"app", "", ["eth"]⟩]
    { clashingView with
      cache := { clashingView.cache with appsSeen := true }
      outside := (Collaborators.fetchApps 0 clashingScript).2 }
    ⟨[⟨"eth", "app"⟩], [], []⟩ :=
  start_of_listed rfl (by cbv) nofun

theorem course_clashing : Course (default : CacheConfig) [clashingTurn]
    (.done (.ok (statsOf [⟨"app", "", ["eth"]⟩] (Snapshot.assemble clashingFetched)))) := by
  have hcourse : Course (default : CacheConfig) [clashingTurn] (start 0 clashingView).2 := .start rfl
  rw [start_clashing] at hcourse
  exact hcourse

/-- The third supplier has its endpoint. -/
theorem represents_clashing :
    (∃ stats, Course (default : CacheConfig) [clashingTurn] (.done (.ok stats))) ∧
    [clashingTurn].getLast? = some clashingTurn ∧
    ∃ apps events, Built default [clashingTurn] clashingTurn apps events
        clashingTurn.after.cache.snapshot ∧
      ∀ service, Snapshot.Represents (sessions events) service
        (clashingTurn.after.cache.snapshot.serviceEndpoints service ⟨none, none⟩) :=
  ⟨⟨_, course_clashing⟩, rfl, course_clashing.represents rfl⟩

theorem snapshot_clashing : clashingTurn.after.cache.snapshot =
    Snapshot.built 0 [⟨"app", "", ["eth"]⟩] clashingFetched := by
  unfold clashingTurn
  rw [start_clashing]
  rfl

theorem suppliers_clashing :
    ((clashingTurn.after.cache.snapshot.serviceEndpoints "eth" ⟨none, none⟩).values.map
      Endpoint.supplier) = ["node-us", "other"] := by
  have horder : Snapshot.inOrder clashingFetched = clashingFetched := by cbv
  have hservice : (clashingTurn.after.cache.snapshot.serviceEndpoints "eth" ⟨none, none⟩) =
      (clashingFetched.foldl Snapshot.Assembly.add ⟨∅, ∅, 0⟩).ofService "eth" := by
    rw [snapshot_clashing, Snapshot.built, Snapshot.assemble, horder]
    rfl
  rw [hservice]
  decide +kernel

/-- The endpoint of the first supplier is lost to that of the second. -/
theorem clash_loses : ∃ apps events,
    Built default [clashingTurn] clashingTurn apps events clashingTurn.after.cache.snapshot ∧
      Snapshot.Offers (sessions events) "eth" "node" "us-east:443" ∧
      Snapshot.Offers (sessions events) "eth" "node-us" "east:443" ∧
      ¬ ∃ addr e, (clashingTurn.after.cache.snapshot.serviceEndpoints "eth" ⟨none, none⟩).find? addr =
        some e ∧ e.supplier = "node" ∧ e.url = "us-east:443" := by
  have hlast : [clashingTurn].getLast? = some clashingTurn := rfl
  obtain ⟨apps, events, hbuilt⟩ := course_clashing.built hlast
  have hfetched : (⟨"eth", "app"⟩, clashingSession) ∈ sessions events := by
    refine (hbuilt.shows.sessions _ _).1 ?_
    have hnodup : (clashingFetched.map Prod.fst).Nodup := List.nodup_singleton _
    rw [snapshot_clashing]
    exact (Snapshot.find?_sessions hnodup).2 (List.mem_singleton_self _)
  have hoffers : ∀ entry ∈ clashingSession.suppliers, ∀ url, entry.plainUrl? = some url →
      Snapshot.Offers (sessions events) "eth" entry.supplier url :=
    fun entry hentry url hurl => ⟨"app", clashingSession, entry, hfetched, hentry, rfl, hurl⟩
  refine ⟨apps, events, hbuilt, hoffers ⟨"node", [⟨.grpc, "us-east:443"⟩]⟩ (by decide) _ rfl,
    hoffers ⟨"node-us", [⟨.grpc, "east:443"⟩]⟩ (by decide) _ rfl, ?_⟩
  rintro ⟨addr, e, hfind, hsupplier, -⟩
  have hmem : e.supplier ∈ ["node-us", "other"] :=
    suppliers_clashing ▸ List.mem_map_of_mem ((Table.mem_values_iff _ _).2 ⟨addr, hfind⟩)
  rw [hsupplier] at hmem
  revert hmem
  decide

end Example

end Refresh
end RelayGateway
