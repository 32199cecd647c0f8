import RelayGateway.Proofs.Cache.Traffic
import RelayGateway.Script

/-! # What a healthy cache publishes

A healthy cache has published applications, and stays healthy. It has sessions too, unless none of the
applications names a service: a refresh over such a list has nothing to look up, and is not skipped.
-/
namespace RelayGateway
open Relation

namespace Traffic
variable {ω : Type} [Collaborators ω] {config : GatewayConfig} {t t' : Traffic ω}

def NoServices (s : Snapshot) : Prop := ∀ app ∈ s.apps, app.serviceIds = []

/-! ## One move -/

omit [Collaborators ω] in
theorem isHealthy_iff {c : SessionCache} :
    c.isHealthy = true ↔ c.appsSeen = true ∧ c.sessionsSeen = true :=
  Bool.and_eq_true_iff

/-- A move leaves what is published alone, or publishes the snapshot of a refresh. -/
theorem Sound.cache_move (h : Sound config t) (move : Move t t') :
    t.cache.Quiet t'.cache ∨ ∃ now apps fetched, t.cache.Publishes now apps fetched t'.cache := by
  have hrefresh : ∀ now turns (s : ChainView ω × RefreshProgress),
      Refresh.Course config.cacheManager (turns ++ [⟨now, t.gateway.view, s.1⟩]) s.2 →
        t.cache.Quiet s.1.cache ∨
          ∃ now apps fetched, t.cache.Publishes now apps fetched s.1.cache := by
    intro now turns s course
    rcases course.last_turn with hquiet | ⟨apps, fetched, -, -, hpublishes⟩
    · exact .inl hquiet.cache
    · exact .inr ⟨now, apps, fetched, hpublishes⟩
  cases move with
  | refresh now id fresh => exact hrefresh now [] _ (.start h.settings)
  | @refreshOn now id turns stage waiting =>
    exact hrefresh now turns _ (.resume (h.refreshes id _ waiting) h.settings)
  | query now id target fresh => exact .inl (Query.start_leaves now id target t.gateway.view).cache
  | @queryOn now id target turns stage waiting =>
    exact .inl (Query.resume_leaves now id t.gateway.view stage).cache
  | other quiet same => exact .inl quiet

theorem Sound.healthy_move (h : Sound config t) (move : Move t t')
    (healthy : t.cache.isHealthy = true) : t'.cache.isHealthy = true := by
  rw [isHealthy_iff] at healthy ⊢
  rcases h.cache_move move with hquiet | ⟨now, apps, fetched, hpublishes⟩
  · exact ⟨hquiet.appsSeen healthy.1, hquiet.sessionsSeen.trans healthy.2⟩
  · refine ⟨hpublishes.appsSeen healthy.1, ?_⟩
    rw [hpublishes.sessionsSeen, healthy.2, Bool.true_or]

theorem Sound.blank_of_move (h : Sound config t) (move : Move t t') (blank : Blank t'.cache) :
    Blank t.cache := by
  rcases h.cache_move move with hquiet | ⟨now, apps, fetched, hpublishes⟩
  · exact ⟨hquiet.snapshot.symm.trans blank.snapshot,
      hquiet.sessionsSeen.symm.trans blank.sessionsSeen⟩
  · -- A snapshot that a refresh has built has the time of the refresh.
    have hbuilt := congrArg Snapshot.refreshedAt (hpublishes.snapshot.symm.trans blank.snapshot)
    cases hbuilt

/-! ## Later states -/

theorem Sound.later (h : Sound config t) (later : ReflTransGen Move t t') :
    Sound config t' ∧ (t.cache.isHealthy = true → t'.cache.isHealthy = true) ∧
      (Blank t'.cache → Blank t.cache) := by
  induction later with
  | refl => exact ⟨h, id, id⟩
  | tail _ move ih =>
    obtain ⟨hsound, hhealthy, hblank⟩ := ih
    exact ⟨hsound.move move, hsound.healthy_move move ∘ hhealthy,
      hblank ∘ hsound.blank_of_move move⟩

/-- What has been published has applications, and sessions unless there was nothing to look up. -/
theorem Sound.published_some (h : Sound config t) (published : ¬ Blank t.cache) :
    t.snapshot.apps ≠ [] ∧ (t.snapshot.sessions.isEmpty = false ∨ NoServices t.snapshot) := by
  obtain ⟨id, turns, last, stats, apps, events, -, hbuilt⟩ :=
    h.built (h.published.resolve_left published)
  have happs := hbuilt.shows.apps
  rw [NoServices, happs]
  refine ⟨hbuilt.some, ?_⟩
  cases hsessions : RoundEvent.sessions events with
  | nil => exact .inr (SessionJob.ofApps_eq_nil.1 (hbuilt.fetched hsessions))
  | cons x rest =>
    refine .inl ?_
    have hfind := (hbuilt.shows.sessions x.1 x.2).2 (hsessions ▸ List.mem_cons_self)
    rw [← Bool.not_eq_true, Table.isEmpty_iff]
    intro hnone
    rw [hnone] at hfind
    cases hfind

/-- A healthy cache has applications, and sessions unless none of its applications names a service; it
stays healthy; and only such applications take the place of a snapshot with sessions when there are
none. -/
theorem Reached.healthy (h : Reached config t) (later : ReflTransGen Move t t') :
    (t.cache.isHealthy = true → t.snapshot.apps ≠ [] ∧
        (t.snapshot.sessions.isEmpty = false ∨ NoServices t.snapshot)) ∧
      (t.cache.isHealthy = true → t'.cache.isHealthy = true) ∧
      (t.snapshot.sessions.isEmpty = false → t'.snapshot.sessions.isEmpty = true →
        t'.snapshot.apps ≠ [] ∧ NoServices t'.snapshot) := by
  obtain ⟨hsound', hhealthy, hblank⟩ := h.sound.later later
  refine ⟨?_, hhealthy, ?_⟩
  · intro healthy
    refine h.sound.published_some fun blank => ?_
    have hseen := (isHealthy_iff.1 healthy).2
    rw [blank.sessionsSeen] at hseen
    cases hseen
  · intro hsessions hnone
    have hpublished := hsound'.published_some fun blank => by
      have hempty := congrArg (fun s => s.sessions.isEmpty) (hblank blank).snapshot
      have hsessions' : t.snapshot.sessions.isEmpty = true := hempty
      rw [hsessions] at hsessions'
      cases hsessions'
    refine ⟨hpublished.1, hpublished.2.resolve_left ?_⟩
    rw [hnone]
    exact nofun

section Example

def stakedApp : Application := ⟨"app", "key", ["eth"]⟩

def chainOf (app : Application) : ChainScript :=
  { (default : ChainScript) with
    apps := [app]
    sessions := [⟨"eth", "app", some ⟨⟨"session", "eth", "app", 1, 5⟩, some app, []⟩, none, none⟩] }

def seeded : Traffic Script :=
  (begin default { (default : Script) with chain := chainOf stakedApp }).refresh 0 0

def unstaked : Traffic Script :=
  { seeded with
    gateway := { seeded.gateway with
      outside := { (default : Script) with chain := chainOf { stakedApp with serviceIds := [] } } } }

def blanked : Traffic Script := unstaked.refresh 10 1

theorem reached_seeded : Reached default seeded :=
  (Reached.begin default _).refresh 0 0

theorem move_unstaked : Move seeded unstaked := .other (.refl _) rfl

theorem move_blanked : Move unstaked blanked := by
  have hfresh : (unstaked.refreshes.find? 1).isNone = true := by decide +kernel
  have hmove : Move unstaked (unstaked.takeRefresh 10 1 [] (Refresh.start 10 unstaked.gateway.view)) :=
    .refresh 10 1 (Option.isNone_iff_eq_none.1 hfresh)
  unfold blanked Traffic.refresh
  rwa [Option.isNone_iff_eq_none.1 hfresh]

/-- A healthy cache comes to publish a snapshot without sessions in the place of one with a session. -/
theorem healthy_without_sessions :
    Reached default seeded ∧ ReflTransGen Move seeded blanked ∧
      seeded.cache.isHealthy = true ∧ seeded.snapshot.sessions.isEmpty = false ∧
      blanked.cache.isHealthy = true ∧ blanked.snapshot.sessions.isEmpty = true := by
  refine ⟨reached_seeded, .tail (.single move_unstaked) move_blanked, ?_, ?_, ?_, ?_⟩
  all_goals decide +kernel

theorem healthy_seeded : seeded.cache.isHealthy = true ∧ blanked.cache.isHealthy = true ∧
    blanked.snapshot.apps ≠ [] ∧ NoServices blanked.snapshot := by
  have hlater : ReflTransGen Move seeded blanked := .tail (.single move_unstaked) move_blanked
  have hseeded : seeded.cache.isHealthy = true := by decide +kernel
  obtain ⟨-, hhealthy, hblanked⟩ := reached_seeded.healthy hlater
  exact ⟨hseeded, hhealthy hseeded, hblanked (by decide +kernel) (by decide +kernel)⟩

end Example

end Traffic
end RelayGateway
