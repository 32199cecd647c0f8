import RelayGateway.Gateway
import RelayGateway.Proofs.Cache.Query
import Mathlib.Logic.Relation

/-! # Refreshes and queries side by side

Any number of refreshes and queries are under way at a gateway; each takes its turns, and between two
turns everything may happen that leaves what is published alone. Every call is kept with the turns it
has taken, so that what is published can be traced to the refresh that has published it.
-/
namespace RelayGateway
open Relation

variable {ω : Type}

structure RefreshCall (ω : Type) where
  turns : List (ChainTurn ω)
  progress : RefreshProgress

structure QueryCall (ω : Type) where
  target : QueryTarget
  turns : List (ChainTurn ω)
  progress : QueryProgress

structure Traffic (ω : Type) where
  gateway : Gateway ω
  refreshes : Table ProcessId (RefreshCall ω)
  queries : Table ProcessId (QueryCall ω)

namespace Traffic

def begin (config : GatewayConfig) (outside : ω) : Traffic ω := ⟨Gateway.new config outside, ∅, ∅⟩

def cache (t : Traffic ω) : SessionCache := t.gateway.cache

def snapshot (t : Traffic ω) : Snapshot := t.gateway.cache.snapshot

def takeRefresh (t : Traffic ω) (now : Nat) (id : ProcessId) (earlier : List (ChainTurn ω))
    (s : ChainView ω × RefreshProgress) : Traffic ω :=
  { t with
    gateway := t.gateway.withView s.1
    refreshes := t.refreshes.insert id ⟨earlier ++ [⟨now, t.gateway.view, s.1⟩], s.2⟩ }

def takeQuery (t : Traffic ω) (now : Nat) (id : ProcessId) (target : QueryTarget)
    (earlier : List (ChainTurn ω)) (s : ChainView ω × QueryProgress) : Traffic ω :=
  { t with
    gateway := t.gateway.withView s.1
    queries := t.queries.insert id ⟨target, earlier ++ [⟨now, t.gateway.view, s.1⟩], s.2⟩ }

variable [Collaborators ω] {config : GatewayConfig} {t t' : Traffic ω}

/-- A call is made, a call that waits takes its next turn, or something else happens. A call that is
dropped takes no more turns. -/
inductive Move (t : Traffic ω) : Traffic ω → Prop
  | refresh (now : Nat) (id : ProcessId) (fresh : t.refreshes.find? id = none) :
      Move t (t.takeRefresh now id [] (Refresh.start now t.gateway.view))
  | refreshOn (now : Nat) (id : ProcessId) {turns : List (ChainTurn ω)} {stage : RefreshStage}
      (waiting : t.refreshes.find? id = some ⟨turns, .waiting stage⟩) :
      Move t (t.takeRefresh now id turns (Refresh.resume now t.gateway.view stage))
  | query (now : Nat) (id : ProcessId) (target : QueryTarget) (fresh : t.queries.find? id = none) :
      Move t (t.takeQuery now id target [] (World.startQuery now id target t.gateway.view))
  | queryOn (now : Nat) (id : ProcessId) {target : QueryTarget} {turns : List (ChainTurn ω)}
      {stage : QueryStage} (waiting : t.queries.find? id = some ⟨target, turns, .waiting stage⟩) :
      Move t (t.takeQuery now id target turns (Query.resume now id t.gateway.view stage))
  | other {g : Gateway ω} (quiet : t.gateway.cache.Quiet g.cache)
      (same : g.fallbacks = t.gateway.fallbacks) : Move t { t with gateway := g }

def Reached (config : GatewayConfig) (t : Traffic ω) : Prop :=
  ∃ outside : ω, ReflTransGen Move (begin config outside) t

theorem Reached.begin (config : GatewayConfig) (outside : ω) : Reached config (begin config outside) :=
  ⟨outside, .refl⟩

theorem Reached.move (h : Reached config t) (move : Move t t') : Reached config t' := by
  obtain ⟨outside, hmoves⟩ := h
  exact ⟨outside, hmoves.tail move⟩

/-! ## Calls one by one -/

def refresh (t : Traffic ω) (now : Nat) (id : ProcessId) : Traffic ω :=
  match t.refreshes.find? id with
  | none => t.takeRefresh now id [] (Refresh.start now t.gateway.view)
  | some ⟨turns, .waiting stage⟩ =>
    t.takeRefresh now id turns (Refresh.resume now t.gateway.view stage)
  | some ⟨_, .done _⟩ => t

def query (t : Traffic ω) (now : Nat) (id : ProcessId) (target : QueryTarget) : Traffic ω :=
  match t.queries.find? id with
  | none => t.takeQuery now id target [] (World.startQuery now id target t.gateway.view)
  | some ⟨target, turns, .waiting stage⟩ =>
    t.takeQuery now id target turns (Query.resume now id t.gateway.view stage)
  | some ⟨_, _, .done _⟩ => t

theorem Reached.refresh (h : Reached config t) (now : Nat) (id : ProcessId) :
    Reached config (t.refresh now id) := by
  unfold Traffic.refresh
  split
  · exact h.move (.refresh now id (by assumption))
  · exact h.move (.refreshOn now id (by assumption))
  · exact h

theorem Reached.query (h : Reached config t) (now : Nat) (id : ProcessId) (target : QueryTarget) :
    Reached config (t.query now id target) := by
  unfold Traffic.query
  split
  · exact h.move (.query now id target (by assumption))
  · exact h.move (.queryOn now id (by assumption))
  · exact h

/-! ## What holds in every state -/

/-- The turns of a query leave what is published alone, and the monitor too until the query succeeds. -/
structure QueryCall.Sound (call : QueryCall ω) : Prop where
  cache : ∀ turn ∈ call.turns, turn.before.cache.Quiet turn.after.cache
  quiet : (∀ answer, call.progress ≠ .done (.ok answer)) →
    ∀ turn ∈ call.turns, turn.before.Quiet turn.after

def Published (t : Traffic ω) (s : Snapshot) : Prop :=
  ∃ id turns last stats, t.refreshes.find? id = some ⟨turns, .done (.ok stats)⟩ ∧
    turns.getLast? = some last ∧ last.after.cache.snapshot = s

structure Blank (c : SessionCache) : Prop where
  snapshot : c.snapshot = Snapshot.empty
  sessionsSeen : c.sessionsSeen = false

/-- Every call has followed its course, and what is published comes from one of the refreshes. -/
structure Sound (config : GatewayConfig) (t : Traffic ω) : Prop where
  settings : t.cache.config = config.cacheManager
  fallbacks : t.gateway.fallbacks = Gateway.fallbackSets config.protocol
  refreshes : ∀ id call, t.refreshes.find? id = some call →
    Refresh.Course config.cacheManager call.turns call.progress
  queries : ∀ id call, t.queries.find? id = some call → QueryCall.Sound call
  published : Blank t.cache ∨ Published t t.snapshot

theorem Sound.begin (config : GatewayConfig) (outside : ω) : Sound config (begin config outside) where
  settings := rfl
  fallbacks := rfl
  refreshes _ _ := nofun
  queries _ _ := nofun
  published := .inl ⟨rfl, rfl⟩

omit [Collaborators ω] in
/-- A quiet step keeps what was published, with the refreshes that have published it. -/
theorem published_of_quiet (h : Blank t.cache ∨ Published t t.snapshot)
    (quiet : t.cache.Quiet t'.cache)
    (kept : ∀ id turns stats, t.refreshes.find? id = some ⟨turns, .done (.ok stats)⟩ →
      t'.refreshes.find? id = some ⟨turns, .done (.ok stats)⟩) :
    Blank t'.cache ∨ Published t' t'.snapshot := by
  rcases h with ⟨hsnapshot, hseen⟩ | ⟨id, turns, last, stats, hfind, hlast, hsnapshot⟩
  · exact .inl ⟨quiet.snapshot.trans hsnapshot, quiet.sessionsSeen.trans hseen⟩
  · exact .inr ⟨id, turns, last, stats, kept id turns stats hfind, hlast,
      hsnapshot.trans quiet.snapshot.symm⟩

theorem Sound.takeRefresh {now : Nat} {id : ProcessId} {turns : List (ChainTurn ω)}
    {s : ChainView ω × RefreshProgress} (h : Sound config t)
    (free : ∀ turns stats, t.refreshes.find? id ≠ some ⟨turns, .done (.ok stats)⟩)
    (course : Refresh.Course config.cacheManager (turns ++ [⟨now, t.gateway.view, s.1⟩]) s.2) :
    Sound config (t.takeRefresh now id turns s) where
  settings := (course.config_last turns).trans h.settings
  fallbacks := h.fallbacks
  queries := h.queries
  refreshes id' call hfind := by
    unfold Traffic.takeRefresh at hfind
    rw [Table.find?_insert] at hfind
    split at hfind
    · cases hfind
      exact course
    · exact h.refreshes id' call hfind
  published := by
    rcases course.last_turn with hquiet | ⟨apps, fetched, stats, hdone, hpublishes⟩
    · refine published_of_quiet h.published hquiet.cache ?_
      intro id' turns' stats hfind
      -- The refresh that has published before is not the one that takes a turn now.
      have hne : id' ≠ id := by
        rintro rfl
        exact free turns' stats hfind
      exact (Table.find?_insert_of_ne _ hne _).trans hfind
    · refine .inr ⟨id, turns ++ [⟨now, t.gateway.view, s.1⟩], ⟨now, t.gateway.view, s.1⟩, stats, ?_,
        List.getLast?_concat, rfl⟩
      refine (Table.find?_insert_self ..).trans ?_
      rw [hdone]

omit [Collaborators ω] in
theorem QueryCall.Sound.turn {target : QueryTarget} {turns : List (ChainTurn ω)} {now : Nat}
    {v : ChainView ω} {s : ChainView ω × QueryProgress}
    (h : ∀ turn ∈ turns, turn.before.Quiet turn.after) (leaves : Query.Leaves v s) :
    QueryCall.Sound ⟨target, turns ++ [⟨now, v, s.1⟩], s.2⟩ where
  cache turn hturn := by
    rcases List.mem_append.1 hturn with hearlier | hlast
    · exact (h turn hearlier).cache
    · rw [List.mem_singleton.1 hlast]
      exact leaves.cache
  quiet hs turn hturn := by
    rcases List.mem_append.1 hturn with hearlier | hlast
    · exact h turn hearlier
    · rw [List.mem_singleton.1 hlast]
      exact leaves.quiet hs

omit [Collaborators ω] in
theorem Sound.takeQuery [Collaborators ω] {now : Nat} {id : ProcessId} {target : QueryTarget}
    {turns : List (ChainTurn ω)} {s : ChainView ω × QueryProgress} (h : Sound config t)
    (quiet : ∀ turn ∈ turns, turn.before.Quiet turn.after)
    (leaves : Query.Leaves t.gateway.view s) : Sound config (t.takeQuery now id target turns s) where
  settings := leaves.cache.config.trans h.settings
  fallbacks := h.fallbacks
  refreshes := h.refreshes
  queries id' call hfind := by
    unfold Traffic.takeQuery at hfind
    rw [Table.find?_insert] at hfind
    split at hfind
    · cases hfind
      exact .turn quiet leaves
    · exact h.queries id' call hfind
  published := published_of_quiet h.published leaves.cache fun _ _ _ h => h

theorem Sound.move (h : Sound config t) (move : Move t t') : Sound config t' := by
  cases move with
  | refresh now id fresh =>
    refine h.takeRefresh ?_ (.start h.settings)
    rintro turns stats hfind
    rw [fresh] at hfind
    cases hfind
  | @refreshOn now id turns stage waiting =>
    refine h.takeRefresh ?_ (.resume (h.refreshes id _ waiting) h.settings)
    rintro turns stats hfind
    rw [waiting] at hfind
    cases hfind
  | query now id target fresh => exact h.takeQuery (fun _ => nofun) (Query.start_leaves ..)
  | @queryOn now id target turns stage waiting =>
    exact h.takeQuery ((h.queries id _ waiting).quiet fun _ => nofun) (Query.resume_leaves ..)
  | other quiet same =>
    exact ⟨quiet.config.trans h.settings, same.trans h.fallbacks, h.refreshes, h.queries,
      published_of_quiet h.published quiet fun _ _ _ h => h⟩

theorem Reached.sound (h : Reached config t) : Sound config t := by
  obtain ⟨outside, hmoves⟩ := h
  induction hmoves with
  | refl => exact .begin config outside
  | tail _ move ih => exact ih.move move

/-- What is published was built by a refresh that has succeeded, from what that refresh has fetched. -/
theorem Sound.built (h : Sound config t) (published : Published t t.snapshot) :
    ∃ id turns last stats apps events,
      t.refreshes.find? id = some ⟨turns, .done (.ok stats)⟩ ∧
        Refresh.Built config.cacheManager turns last apps events t.snapshot := by
  obtain ⟨id, turns, last, stats, hfind, hlast, hsnapshot⟩ := published
  obtain ⟨apps, events, hbuilt⟩ := (h.refreshes id _ hfind).built hlast
  rw [hsnapshot] at hbuilt
  exact ⟨id, turns, last, stats, apps, events, hfind, hbuilt⟩

end Traffic
end RelayGateway
