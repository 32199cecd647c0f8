import RelayGateway.Cache.Snapshot
import RelayGateway.Proofs.Endpoint

/-! # What a snapshot is made of

Sessions that are fetched in any order make up the same snapshot. It has exactly those sessions, and
under every address of a service the endpoint of the least application with one.
-/
namespace RelayGateway

namespace SessionJob
variable {a b c job : SessionJob} {apps : List Application}

theorem le_iff : le a b = true ↔
    if a.serviceId = b.serviceId then a.appAddress ≤ b.appAddress else a.serviceId ≤ b.serviceId := by
  unfold le
  split <;> exact decide_eq_true_iff

theorem le_total (a b : SessionJob) : (le a b || le b a) = true := by
  rw [Bool.or_eq_true, le_iff, le_iff]
  by_cases h : a.serviceId = b.serviceId
  · rw [if_pos h, if_pos h.symm]
    exact String.le_total a.appAddress b.appAddress
  · rw [if_neg h, if_neg (Ne.symm h)]
    exact String.le_total a.serviceId b.serviceId

theorem le_antisymm (hab : le a b = true) (hba : le b a = true) : a = b := by
  rw [le_iff] at hab hba
  have hservice : a.serviceId = b.serviceId := by
    refine Decidable.byContradiction fun h => h ?_
    rw [if_neg h] at hab
    rw [if_neg (Ne.symm h)] at hba
    exact String.le_antisymm hab hba
  rw [if_pos hservice] at hab
  rw [if_pos hservice.symm] at hba
  cases a
  cases b
  exact congr (congrArg _ hservice) (String.le_antisymm hab hba)

theorem le_trans (hab : le a b = true) (hbc : le b c = true) : le a c = true := by
  rw [le_iff] at hab hbc ⊢
  by_cases hab' : a.serviceId = b.serviceId
  · rw [if_pos hab'] at hab
    rw [hab']
    by_cases hbc' : b.serviceId = c.serviceId
    · rw [if_pos hbc'] at hbc ⊢
      exact String.le_trans hab hbc
    · rwa [if_neg hbc'] at hbc ⊢
  · rw [if_neg hab'] at hab
    by_cases hbc' : b.serviceId = c.serviceId
    · rwa [← hbc', if_neg hab']
    · rw [if_neg hbc'] at hbc
      have hac : a.serviceId ≠ c.serviceId := by
        rintro hac
        rw [hac] at hab
        exact hbc' (String.le_antisymm hbc hab)
      rw [if_neg hac]
      exact String.le_trans hab hbc

theorem nodup_eraseDups (l : List SessionJob) : l.eraseDups.Nodup := by
  cases l with
  | nil => exact List.nodup_nil
  | cons job rest =>
    rw [List.eraseDups_cons, List.nodup_cons]
    refine ⟨?_, nodup_eraseDups (rest.filter fun b => !b == job)⟩
    rw [List.mem_eraseDups, List.mem_filter]
    rintro ⟨-, hne⟩
    rw [beq_self_eq_true] at hne
    cases hne
termination_by l.length
decreasing_by exact Nat.lt_succ_of_le (List.length_filter_le _ _)

theorem nodup_ofApps (apps : List Application) : (ofApps apps).Nodup := nodup_eraseDups _

/-- The jobs are the pairs that the applications name. -/
theorem mem_ofApps : job ∈ ofApps apps ↔
    ∃ app ∈ apps, job.serviceId ∈ app.serviceIds ∧ job.appAddress = app.address := by
  unfold ofApps ofApp
  simp only [List.mem_eraseDups, List.mem_mergeSort, List.mem_flatMap, List.mem_map]
  constructor
  · rintro ⟨app, happ, service, hservice, rfl⟩
    exact ⟨app, happ, hservice, rfl⟩
  · rintro ⟨app, happ, hservice, haddress⟩
    exact ⟨app, happ, job.serviceId, hservice, by rw [← haddress]⟩

theorem ofApps_eq_nil : ofApps apps = [] ↔ ∀ app ∈ apps, app.serviceIds = [] := by
  simp only [List.eq_nil_iff_forall_not_mem, mem_ofApps]
  constructor
  · intro h app happ service hservice
    exact h ⟨service, app.address⟩ ⟨app, happ, hservice, rfl⟩
  · rintro h job ⟨app, happ, hservice, -⟩
    exact h app happ _ hservice

end SessionJob

namespace Snapshot
variable {fetched fetched' l : List (SessionJob × Session)} {service : ServiceId}
variable {addr : EndpointAddr} {session : Session} {e : Endpoint} {a : Assembly}

/-! ## The order of the jobs -/

theorem inOrder_perm (fetched : List (SessionJob × Session)) : (inOrder fetched).Perm fetched :=
  List.mergeSort_perm ..

theorem mem_inOrder {x : SessionJob × Session} : x ∈ inOrder fetched ↔ x ∈ fetched :=
  List.mem_mergeSort

theorem pairwise_inOrder (fetched : List (SessionJob × Session)) :
    (inOrder fetched).Pairwise fun x y => SessionJob.le x.1 y.1 = true := by
  refine List.pairwise_mergeSort ?_ ?_ fetched
  · exact fun _ _ _ => SessionJob.le_trans
  · exact fun x y => SessionJob.le_total x.1 y.1

theorem eq_of_job_eq (hd : (fetched.map Prod.fst).Nodup) {x y : SessionJob × Session}
    (hx : x ∈ fetched) (hy : y ∈ fetched) (h : x.1 = y.1) : x = y := by
  have hfind := (Table.lookup_eq_some_iff hd).2 hx
  rw [h, (Table.lookup_eq_some_iff hd).2 hy] at hfind
  exact Prod.ext h (Option.some.inj hfind).symm

/-- With one session for each job, the order is the same whatever order they came in. -/
theorem inOrder_eq_of_perm (hd : (fetched.map Prod.fst).Nodup) (h : fetched.Perm fetched') :
    inOrder fetched = inOrder fetched' := by
  refine List.Perm.eq_of_pairwise ?_ (pairwise_inOrder fetched) (pairwise_inOrder fetched')
    (((inOrder_perm fetched).trans h).trans (inOrder_perm fetched').symm)
  intro x y hx hy hxy hyx
  exact eq_of_job_eq hd (mem_inOrder.1 hx) (h.mem_iff.2 (mem_inOrder.1 hy))
    (SessionJob.le_antisymm hxy hyx)

theorem nodup_inOrder (hd : (fetched.map Prod.fst).Nodup) :
    ((inOrder fetched).map Prod.fst).Nodup :=
  ((inOrder_perm fetched).map Prod.fst).nodup_iff.2 hd

theorem assemble_eq_of_perm (hd : (fetched.map Prod.fst).Nodup) (h : fetched.Perm fetched') :
    assemble fetched = assemble fetched' := by
  unfold assemble
  rw [inOrder_eq_of_perm hd h]

/-! ## Sessions -/

theorem sessions_foldl_add (l : List (SessionJob × Session)) (a : Assembly) :
    (l.foldl Assembly.add a).sessions = l.foldl (fun t e => t.insert e.1 e.2) a.sessions := by
  induction l generalizing a with
  | nil => rfl
  | cons x rest ih => exact ih (a.add x)

theorem entries_sessions (hd : (fetched.map Prod.fst).Nodup) :
    (assemble fetched).sessions.entries = inOrder fetched := by
  unfold assemble
  rw [sessions_foldl_add]
  exact Table.entries_ofList (nodup_inOrder hd)

/-- The sessions of the snapshot are those that were fetched. -/
theorem find?_sessions (hd : (fetched.map Prod.fst).Nodup) {job : SessionJob} {session : Session} :
    (assemble fetched).sessions.find? job = some session ↔ (job, session) ∈ fetched := by
  rw [Table.find?_eq_some_iff, entries_sessions hd, mem_inOrder]

theorem size_sessions (hd : (fetched.map Prod.fst).Nodup) :
    (assemble fetched).sessions.size = fetched.length := by
  rw [Table.size, entries_sessions hd, (inOrder_perm fetched).length_eq]

theorem isEmpty_sessions (hd : (fetched.map Prod.fst).Nodup) :
    (assemble fetched).sessions.isEmpty = fetched.isEmpty := by
  rw [Table.isEmpty, entries_sessions hd, Bool.eq_iff_iff, List.isEmpty_iff, List.isEmpty_iff,
    ← List.length_eq_zero_iff, ← List.length_eq_zero_iff, (inOrder_perm fetched).length_eq]

/-! ## Endpoints -/

def derived? (service : ServiceId) (addr : EndpointAddr) (x : SessionJob × Session) :
    Option Endpoint :=
  if x.1.serviceId = service then (x.2.endpoints none).find? addr else none

def Assembly.ofService (a : Assembly) (service : ServiceId) : EndpointMap :=
  (a.endpoints.find? service).getD ∅

theorem find?_add (a : Assembly) (x : SessionJob × Session) :
    ((a.add x).ofService service).find? addr =
      ((a.ofService service).find? addr).or (derived? service addr x) := by
  unfold Assembly.add Assembly.ofService derived?
  dsimp only
  rw [Table.find?_insert]
  by_cases h : service = x.1.serviceId
  · rw [if_pos h, if_pos h.symm, Option.getD_some, EndpointMap.find?_mergeFirstSeen,
      Session.find?_values_endpoints, h]
  · rw [if_neg h, if_neg (Ne.symm h), Option.or_none]

/-- The first session that has an endpoint with the address keeps it. -/
theorem find?_foldl_add (l : List (SessionJob × Session)) (a : Assembly) :
    ((l.foldl Assembly.add a).ofService service).find? addr =
      ((a.ofService service).find? addr).or (l.findSome? (derived? service addr)) := by
  induction l generalizing a with
  | nil => exact (Option.or_none ..).symm
  | cons x rest ih =>
    rw [List.foldl_cons, ih, find?_add, Option.or_assoc, List.findSome?_cons]
    cases derived? service addr x <;> rfl

/-- Of the fetched sessions of a service that give an endpoint with an address, `session` is the one of
the least application. -/
def FirstWith (fetched : List (SessionJob × Session)) (service : ServiceId) (addr : EndpointAddr)
    (session : Session) : Prop :=
  ∃ app, (⟨service, app⟩, session) ∈ fetched ∧ (session.endpoints none).contains addr = true ∧
    ∀ app' session', (⟨service, app'⟩, session') ∈ fetched →
      (session'.endpoints none).contains addr = true → app ≤ app'

theorem firstWith_congr (h : ∀ x, x ∈ fetched ↔ x ∈ fetched') :
    FirstWith fetched service addr session ↔ FirstWith fetched' service addr session := by
  unfold FirstWith
  simp only [h]

theorem FirstWith.unique (hd : (fetched.map Prod.fst).Nodup) {session' : Session}
    (h : FirstWith fetched service addr session) (h' : FirstWith fetched service addr session') :
    session = session' := by
  obtain ⟨app, hmem, hcontains, hleast⟩ := h
  obtain ⟨app', hmem', hcontains', hleast'⟩ := h'
  have happ : app = app' :=
    String.le_antisymm (hleast app' session' hmem' hcontains') (hleast' app session hmem hcontains)
  cases happ
  cases eq_of_job_eq hd hmem hmem' rfl
  rfl

theorem derived?_eq_some {x : SessionJob × Session} (h : derived? service addr x = some e) :
    x.1.serviceId = service ∧ (x.2.endpoints none).find? addr = some e := by
  unfold derived? at h
  split at h
  · exact ⟨by assumption, h⟩
  · cases h

/-- In the order of the jobs, the first session with the address is the one of the least application. -/
theorem firstWith_of_findSome? (hsorted : l.Pairwise fun x y => SessionJob.le x.1 y.1 = true)
    (h : l.findSome? (derived? service addr) = some e) :
    ∃ session, FirstWith l service addr session ∧ (session.endpoints none).find? addr = some e := by
  obtain ⟨before, ⟨⟨service', app⟩, session⟩, after, rfl, hderived, hnone⟩ :=
    List.findSome?_eq_some_iff.1 h
  obtain ⟨hservice, hfind⟩ := derived?_eq_some hderived
  cases hservice
  refine ⟨session, ⟨app, List.mem_append_right _ List.mem_cons_self, ?_, ?_⟩, hfind⟩
  · exact Option.isSome_of_eq_some hfind
  · intro app' session' hmem hcontains
    rcases List.mem_append.1 hmem with hbefore | hmem
    · have hderived' := hnone _ hbefore
      unfold derived? at hderived'
      rw [if_pos rfl] at hderived'
      rw [Table.contains, hderived'] at hcontains
      cases hcontains
    · rcases List.mem_cons.1 hmem with heq | hafter
      · cases heq
        exact String.le_refl app
      · have hle := List.rel_of_pairwise_cons (List.pairwise_append.1 hsorted).2.1 hafter
        rwa [SessionJob.le_iff, if_pos rfl] at hle

theorem findSome?_of_mem {app : String} (hmem : (⟨service, app⟩, session) ∈ l)
    (hcontains : (session.endpoints none).contains addr = true) :
    ∃ e, l.findSome? (derived? service addr) = some e := by
  refine Option.isSome_iff_exists.1 (List.findSome?_isSome_iff.2 ⟨_, hmem, ?_⟩)
  unfold derived?
  rwa [if_pos rfl]

/-- Where one session of a service gives an endpoint with an address, one of them is the first. -/
theorem exists_firstWith {app : String} (hmem : (⟨service, app⟩, session) ∈ fetched)
    (hcontains : (session.endpoints none).contains addr = true) :
    ∃ first, FirstWith fetched service addr first := by
  obtain ⟨e, he⟩ := findSome?_of_mem (mem_inOrder.2 hmem) hcontains
  obtain ⟨first, hfirst, -⟩ := firstWith_of_findSome? (pairwise_inOrder fetched) he
  exact ⟨first, (firstWith_congr fun _ => mem_inOrder).1 hfirst⟩

/-- Under an address of a service the snapshot has the endpoint of the least application with one. -/
theorem find?_endpoints (hd : (fetched.map Prod.fst).Nodup) :
    ((assemble fetched).ofService service).find? addr = some e ↔
      ∃ session, FirstWith fetched service addr session ∧
        (session.endpoints none).find? addr = some e := by
  have hassembled : ((assemble fetched).ofService service).find? addr =
      (inOrder fetched).findSome? (derived? service addr) := by
    unfold assemble
    rw [find?_foldl_add]
    rfl
  rw [hassembled]
  constructor
  · intro h
    obtain ⟨session, hfirst, hfind⟩ := firstWith_of_findSome? (pairwise_inOrder fetched) h
    exact ⟨session, (firstWith_congr fun _ => mem_inOrder).1 hfirst, hfind⟩
  · rintro ⟨session, hfirst, hfind⟩
    obtain ⟨app, hmem, hcontains, -⟩ := id hfirst
    obtain ⟨e', he'⟩ := findSome?_of_mem (mem_inOrder.2 hmem) hcontains
    obtain ⟨session', hfirst', hfind'⟩ := firstWith_of_findSome? (pairwise_inOrder fetched) he'
    cases FirstWith.unique hd hfirst ((firstWith_congr fun _ => mem_inOrder).1 hfirst')
    rw [he', ← hfind', hfind]

/-! ## Counts -/

theorem endpointCount_eq (endpoints : Table ServiceId EndpointMap) :
    endpointCount endpoints = (endpoints.entries.map fun x => x.2.size).sum := by
  unfold endpointCount Table.values
  rw [List.foldl_map, List.sum_eq_foldl, List.foldl_map]

theorem endpointCount_insert (endpoints : Table ServiceId EndpointMap) (service : ServiceId)
    (m : EndpointMap) :
    endpointCount (endpoints.insert service m) + ((endpoints.find? service).getD ∅).size =
      endpointCount endpoints + m.size := by
  have hreplaced : ((endpoints.find? service).map Table.size).getD 0 =
      ((endpoints.find? service).getD ∅).size := by
    cases endpoints.find? service <;> rfl
  rw [endpointCount_eq, endpointCount_eq, ← hreplaced]
  exact Table.sum_replace Table.size service m

/-- Each endpoint of a session that is added is kept or counted as a duplicate. -/
theorem count_add (a : Assembly) (x : SessionJob × Session) :
    endpointCount (a.add x).endpoints + (a.add x).duplicates =
      endpointCount a.endpoints + a.duplicates + (x.2.endpoints none).size := by
  have hmerge := EndpointMap.size_mergeFirstSeen (a.ofService x.1.serviceId)
    (x.2.endpoints none).values
  have hinsert := endpointCount_insert a.endpoints x.1.serviceId
    (EndpointMap.mergeFirstSeen (a.ofService x.1.serviceId) (x.2.endpoints none).values).1
  have hvalues : (x.2.endpoints none).values.length = (x.2.endpoints none).size :=
    List.length_map _
  unfold Assembly.add Assembly.ofService at *
  dsimp only at *
  omega

theorem count_foldl_add (l : List (SessionJob × Session)) (a : Assembly) :
    endpointCount (l.foldl Assembly.add a).endpoints + (l.foldl Assembly.add a).duplicates =
      endpointCount a.endpoints + a.duplicates + (l.map fun x => (x.2.endpoints none).size).sum := by
  induction l generalizing a with
  | nil => rfl
  | cons x rest ih =>
    rw [List.foldl_cons, ih, count_add, List.map_cons, List.sum_cons]
    omega

/-- Every endpoint of a fetched session is among those of the snapshot or among the duplicates. -/
theorem count_assemble (fetched : List (SessionJob × Session)) :
    endpointCount (assemble fetched).endpoints + (assemble fetched).duplicates =
      (fetched.map fun x => (x.2.endpoints none).size).sum := by
  have hperm := (inOrder_perm fetched).map fun x => (x.2.endpoints none).size
  unfold assemble
  rw [count_foldl_add, hperm.sum_nat]
  exact Nat.zero_add _

/-! ## The snapshot as a whole -/

def built (now : Nat) (apps : List Application) (fetched : List (SessionJob × Session)) : Snapshot :=
  ⟨apps, (assemble fetched).sessions, (assemble fetched).endpoints, some (Timestamp.ofMillis now)⟩

/-- A snapshot shows the applications, exactly the fetched sessions, and of the endpoints with one
address that sessions of a service have the one of the least application. -/
structure Shows (s : Snapshot) (apps : List Application) (fetched : List (SessionJob × Session)) :
    Prop where
  apps : s.apps = apps
  sessions : ∀ job session, s.sessions.find? job = some session ↔ (job, session) ∈ fetched
  endpoints : ∀ service addr e, (s.ofService service).find? addr = some e ↔
    ∃ session, FirstWith fetched service addr session ∧ (session.endpoints none).find? addr = some e

theorem shows_built (hd : (fetched.map Prod.fst).Nodup) (now : Nat) (apps : List Application) :
    (built now apps fetched).Shows apps fetched :=
  ⟨rfl, fun _ _ => find?_sessions hd, fun _ _ _ => find?_endpoints hd⟩

end Snapshot
end RelayGateway
