import RelayGateway.Proofs.ExpiringMap.Refinement
import RelayGateway.Proofs.Sanction.History

/-! # Reports agree with the filter

A report has one record for each sanction in force. The record of a session sanction takes the
application and the session from the sanction, while the filter looks the endpoint up by a key; the two
name the same place, whatever was recorded, overwritten or left to expire before.
-/
namespace RelayGateway

def SanctionRecord.key (r : SanctionRecord) : SessionSanctionKey :=
  ⟨r.sanction.appAddress, r.sanction.sessionId, r.endpointAddr⟩

namespace SanctionDetails

/-- Why an endpoint is sanctioned, going by the report alone. -/
def reason? (d : SanctionDetails) (e : Endpoint) : Option String :=
  match d.permanent.find? fun r => r.endpointAddr = e.addr with
  | some r => some ("permanent sanction: " ++ r.sanction.reason)
  | none =>
    (d.session.find? fun r => e.sanctionKey? = some r.key).map
      fun r => "session sanction: " ++ r.sanction.reason

def ofService (d : SanctionDetails) (service : ServiceId) : SanctionDetails :=
  let permanent := d.permanent.filter fun r => r.sanction.sessionServiceId = service
  let session := d.session.filter fun r => r.sanction.sessionServiceId = service
  ⟨permanent, session, permanent.length, session.length⟩

end SanctionDetails

namespace SanctionStore
variable {s : SanctionStore} {log : Log} {ttl now : Nat} {addr : EndpointAddr}
variable {key : SessionSanctionKey} {sanction : Sanction} {p : EndpointObservation → Bool}

/-- One record for each sanction in force, and no others. -/
structure Reports (log : Log) (ttl now : Nat) (d : SanctionDetails) : Prop where
  permanent_once : (d.permanent.map SanctionRecord.endpointAddr).Nodup
  permanent_iff : ∀ addr, addr ∈ d.permanent.map SanctionRecord.endpointAddr ↔
    ∃ x ∈ log, condemns addr x.2 = true
  permanent_latest : ∀ r ∈ d.permanent, ∃ x, latest (condemns r.endpointAddr) log = some x ∧
    r = ⟨r.endpointAddr, .permanent, sanctionOf x⟩
  session_once : (d.session.map SanctionRecord.key).Nodup
  session_iff : ∀ key, key ∈ d.session.map SanctionRecord.key ↔
    ∃ x ∈ log, suspends key x.2 = true ∧ now < x.1 + ttl
  session_latest : ∀ r ∈ d.session, ∃ x, latest (suspends r.key) log = some x ∧
    r = ⟨r.endpointAddr, .session, sanctionOf x⟩
  permanent_count : d.permanentCount = d.permanent.length
  session_count : d.sessionCount = d.session.length

theorem exists_latest : (∃ x, latest p log = some x) ↔ ∃ x ∈ log, p x.2 = true := by
  rw [← Option.ne_none_iff_exists', ne_eq, latest_eq_none]
  push Not
  simp only [ne_eq, Bool.not_eq_false]

/-- The latest observation is young enough if any is. -/
theorem exists_young_latest (hordered : log.Pairwise fun x y => x.1 ≤ y.1) :
    (∃ x, latest p log = some x ∧ now < x.1 + ttl) ↔ ∃ x ∈ log, p x.2 = true ∧ now < x.1 + ttl := by
  constructor
  · rintro ⟨x, hx, hyoung⟩
    obtain ⟨hm, hp⟩ := latest_mem hx
    exact ⟨x, hm, hp, hyoung⟩
  · rintro ⟨y, hm, hp, hyoung⟩
    obtain ⟨x, hx⟩ := exists_latest.2 ⟨y, hm, hp⟩
    have hle := le_latest hordered hx hm hp
    exact ⟨x, hx, by omega⟩

/-! ## What the two stores hold -/

theorem Faithful.mem_permanent (h : Faithful log ttl now s) :
    (addr, sanction) ∈ s.permanent.entries ↔
      ∃ x, latest (condemns addr) log = some x ∧ sanctionOf x = sanction := by
  rw [← Table.find?_eq_some_iff, h.permanent, Option.map_eq_some_iff]

theorem Faithful.mem_session (h : Faithful log ttl now s) :
    (key, sanction) ∈ s.session.liveEntries now ↔
      ∃ x, latest (suspends key) log = some x ∧ now < x.1 + ttl ∧ sanctionOf x = sanction := by
  rw [ExpiringMap.mem_liveEntries, h.session key now (Nat.le_refl now)]
  simp only [Option.map_eq_some_iff, Option.filter_eq_some_iff, decide_eq_true_eq, and_assoc]

/-- A session sanction names the key under which it is kept. -/
theorem Faithful.key_eq (h : Faithful log ttl now s)
    (hm : (key, sanction) ∈ s.session.liveEntries now) :
    (⟨sanction.appAddress, sanction.sessionId, key.endpointAddr⟩ : SessionSanctionKey) = key := by
  obtain ⟨x, hx, -, rfl⟩ := h.mem_session.1 hm
  have hkey : x.2.sanctionKey = key := by
    have hp := (latest_mem hx).2
    simp only [suspends, Bool.and_eq_true, decide_eq_true_eq] at hp
    exact hp.2
  rw [← hkey]
  rfl

/-! ## The report lists what is held -/

theorem concerns_none (sanction : Sanction) : concerns none sanction = true := rfl

theorem permanent_details (s : SanctionStore) (now : Nat) : (s.details now none).permanent =
    s.permanent.entries.map fun e => ⟨e.1, .permanent, e.2⟩ := by
  simp only [details, concerns_none, List.filter_true]

theorem session_details (s : SanctionStore) (now : Nat) : (s.details now none).session =
    (s.session.liveEntries now).map fun e => ⟨e.1.endpointAddr, .session, e.2⟩ := by
  simp only [details, concerns_none, List.filter_true]

theorem permanent_listed (s : SanctionStore) (now : Nat) :
    ((s.details now none).permanent.map fun r => (r.endpointAddr, r.sanction)) =
      s.permanent.entries := by
  rw [permanent_details, List.map_map]
  exact List.map_id _

theorem Faithful.session_listed (h : Faithful log ttl now s) :
    ((s.details now none).session.map fun r => (r.key, r.sanction)) = s.session.liveEntries now := by
  rw [session_details, List.map_map]
  conv => rhs; rw [← List.map_id (s.session.liveEntries now)]
  refine List.map_congr_left ?_
  rintro ⟨key, sanction⟩ hm
  exact Prod.ext (h.key_eq hm) rfl

theorem permanent_addrs (s : SanctionStore) (now : Nat) :
    (s.details now none).permanent.map SanctionRecord.endpointAddr =
      s.permanent.entries.map Prod.fst := by
  rw [← permanent_listed s now, List.map_map]
  rfl

theorem Faithful.session_keys (h : Faithful log ttl now s) :
    (s.details now none).session.map SanctionRecord.key =
      (s.session.liveEntries now).map Prod.fst := by
  rw [← h.session_listed, List.map_map]
  rfl

theorem Faithful.reports (h : Faithful log ttl now s) :
    Reports log ttl now (s.details now none) where
  permanent_once := by
    rw [permanent_addrs]
    exact s.permanent.distinct
  permanent_iff := by
    intro addr
    rw [permanent_addrs, ← exists_latest]
    simp [h.mem_permanent]
  permanent_latest := by
    intro r hr
    rw [permanent_details] at hr
    obtain ⟨⟨addr, sanction⟩, hm, rfl⟩ := List.mem_map.1 hr
    obtain ⟨x, hx, rfl⟩ := h.mem_permanent.1 hm
    exact ⟨x, hx, rfl⟩
  session_once := by
    rw [h.session_keys]
    exact ExpiringMap.nodup_keys_liveEntries _ _
  session_iff := by
    intro key
    rw [h.session_keys, ← exists_young_latest h.ordered]
    simp [h.mem_session]
  session_latest := by
    intro r hr
    rw [session_details] at hr
    obtain ⟨⟨key, sanction⟩, hm, rfl⟩ := List.mem_map.1 hr
    have hkey := h.key_eq hm
    obtain ⟨x, hx, -, rfl⟩ := h.mem_session.1 hm
    exact ⟨x, (congrArg (fun key => latest (suspends key) log) hkey).trans hx, rfl⟩
  permanent_count := rfl
  session_count := rfl

/-! ## The report and the filter -/

theorem find?_permanent_details (s : SanctionStore) (now : Nat) (addr : EndpointAddr) :
    ((s.details now none).permanent.find? fun r => r.endpointAddr = addr).map
      SanctionRecord.sanction = s.permanent.find? addr := by
  rw [← Table.lookup_map, permanent_listed]
  rfl

theorem Faithful.find?_session_details (h : Faithful log ttl now s) (key : SessionSanctionKey) :
    ((s.details now none).session.find? fun r => r.key = key).map SanctionRecord.sanction =
      s.session.find? now key := by
  rw [← Table.lookup_map, h.session_listed]
  refine Option.ext fun sanction => ?_
  rw [Table.lookup_eq_some_iff (ExpiringMap.nodup_keys_liveEntries _ _),
    ExpiringMap.mem_liveEntries]

theorem Faithful.reason?_details (h : Faithful log ttl now s) (e : Endpoint) :
    (s.details now none).reason? e = s.reason? now e := by
  unfold SanctionDetails.reason? SanctionStore.reason?
  rw [← find?_permanent_details s now]
  cases (s.details now none).permanent.find? fun r => r.endpointAddr = e.addr with
  | some r => rfl
  | none =>
    cases e.sanctionKey? with
    | none => simp
    | some key =>
      simp only [Option.map_none, Option.some.injEq]
      rw [← h.find?_session_details key, Option.map_map]
      simp only [eq_comm]
      rfl

theorem details_service (s : SanctionStore) (now : Nat) (service : ServiceId) :
    s.details now (some service) = (s.details now none).ofService service := by
  unfold SanctionDetails.ofService
  rw [permanent_details, session_details]
  simp only [details, concerns, List.filter_map, Function.comp_def]

/-! ## Every run -/

/-- After any run a report has exactly one record for each permanent and for each session sanction in
force. The record is of the latest observation, and its address, or its application, session and address,
are those by which endpoints are looked up: the report alone tells for every endpoint whether it is
sanctioned, and why. The report for a service is made of the records that name it. -/
theorem run_reports (config : SanctionConfig) (start : Nat) (events : List Event) :
    let s := (run (new config) start events).1
    let now := (run (new config) start events).2
    let d := s.details now none
    Reports (chronicle [] start events) config.sessionTtl now d ∧
      (∀ e, d.reason? e = s.reason? now e) ∧
      ∀ service, s.details now (some service) = d.ofService service := by
  intro s now d
  have h : Faithful (chronicle [] start events) config.sessionTtl now s :=
    (faithful_new config start).run events
  exact ⟨h.reports, h.reason?_details, details_service s now⟩

end SanctionStore
end RelayGateway
