import Mathlib.Data.Fintype.EquivFin
import RelayGateway.Proofs.Cache.Traffic
import RelayGateway.Proofs.Process.Reachable

/-! # The calls of a gateway in operation

Every turn of an activity that refreshes or queries is a turn of one call, and nothing else touches
what is published. So a gateway in operation follows its traffic: what waits in the activities are the
calls that wait in the traffic, and the gateway is one that traffic comes to.
-/
namespace RelayGateway
open Relation

variable {ω : Type}

theorem Table.exists_unused {ν : Type} (t : Table ProcessId ν) : ∃ id, t.find? id = none := by
  obtain ⟨id, hid⟩ := Infinite.exists_notMem_finset t.keys.toFinset
  exact ⟨id, (Table.find?_eq_none_iff t id).2 (mt List.mem_toFinset.2 hid)⟩

namespace Operation
variable {o o' : Operation ω} {t t' : Traffic ω} {call : ProcessId → ProcessId} {id : ProcessId}
variable {stage? : Option RefreshStage}
variable {query? : Option (QueryTarget × Option QueryStage)}

def refreshing? (o : Operation ω) (id : ProcessId) : Option RefreshStage :=
  (Schedule.process? o id).bind Activity.refreshing?

def querying? (o : Operation ω) (id : ProcessId) : Option (QueryTarget × Option QueryStage) :=
  (Schedule.process? o id).bind Activity.querying?

/-- Each refresh that waits in an activity waits in the traffic, in a call of its own. -/
structure Refreshes (o : Operation ω) (t : Traffic ω) (call : ProcessId → ProcessId) : Prop where
  waiting : ∀ id stage, o.refreshing? id = some stage →
    ∃ turns, t.refreshes.find? (call id) = some ⟨turns, .waiting stage⟩
  apart : ∀ id id' stage stage', o.refreshing? id = some stage → o.refreshing? id' = some stage' →
    call id = call id' → id = id'

/-- Each query is in the traffic under the id of its activity once it has been made. -/
structure Queries (o : Operation ω) (t : Traffic ω) : Prop where
  waiting : ∀ id target stage, o.querying? id = some (target, some stage) →
    ∃ turns, t.queries.find? id = some ⟨target, turns, .waiting stage⟩
  fresh : ∀ id target, o.querying? id = some (target, none) → t.queries.find? id = none
  unused : ∀ id, o.nextId ≤ id → Schedule.process? o id = none ∧ t.queries.find? id = none

structure Follows (o : Operation ω) (t : Traffic ω) : Prop where
  gateway : t.gateway = o.gateway
  refreshes : ∃ call, Refreshes o t call
  queries : Queries o t

/-! ## Fewer calls -/

theorem Refreshes.of_less (h : Refreshes o t call)
    (less : ∀ id stage, o'.refreshing? id = some stage → o.refreshing? id = some stage)
    (same : t'.refreshes = t.refreshes) : Refreshes o' t' call where
  waiting id stage hstage := same ▸ h.waiting id stage (less id stage hstage)
  apart id id' stage stage' hstage hstage' :=
    h.apart id id' stage stage' (less id stage hstage) (less id' stage' hstage')

theorem Queries.of_less (h : Queries o t)
    (less : ∀ id query, o'.querying? id = some query → o.querying? id = some query)
    (unused : ∀ id, Schedule.process? o id = none → Schedule.process? o' id = none)
    (nextId : o'.nextId = o.nextId) (same : t'.queries = t.queries) : Queries o' t' where
  waiting id target stage hquery := same ▸ h.waiting id target stage (less id _ hquery)
  fresh id target hquery := same ▸ h.fresh id target (less id _ hquery)
  unused id hid := by
    obtain ⟨hprocess, hfind⟩ := h.unused id (nextId ▸ hid)
    exact ⟨unused id hprocess, same ▸ hfind⟩

/-! ## Turns -/

structure Leaves (o o' : Operation ω) (id : ProcessId) (stage? : Option RefreshStage)
    (query? : Option (QueryTarget × Option QueryStage)) : Prop where
  refreshing : ∀ id', o'.refreshing? id' = if id' = id then stage? else o.refreshing? id'
  querying : ∀ id', o'.querying? id' = if id' = id then query? else o.querying? id'
  nextId : o'.nextId = o.nextId
  unused : ∀ id', Schedule.process? o id' = none → Schedule.process? o' id' = none

theorem Leaves.of_process {process : Option Activity}
    (h : ∀ id', Schedule.process? o' id' = if id' = id then process else Schedule.process? o id')
    (nextId : o'.nextId = o.nextId) (unused : Schedule.process? o id = none → process = none)
    (refreshing : process.bind Activity.refreshing? = stage?)
    (querying : process.bind Activity.querying? = query?) : Leaves o o' id stage? query? where
  refreshing id' := by
    unfold refreshing?
    rw [h, apply_ite (Option.bind · Activity.refreshing?), refreshing]
  querying id' := by
    unfold querying?
    rw [h, apply_ite (Option.bind · Activity.querying?), querying]
  nextId := nextId
  unused id' hnone := by
    rw [h]
    split
    · subst id'
      exact unused hnone
    · exact hnone

theorem leaves_remove (o : Operation ω) (id : ProcessId) :
    Leaves o (Schedule.remove o id) id none none :=
  .of_process (Schedule.process?_remove o id) rfl (fun _ => rfl) rfl rfl

theorem leaves_of_takes {turn : World.WorldTurn ω} {a : Activity}
    (ha : Schedule.process? o id = some a) (takes : Schedule.Takes o o' id turn)
    (refreshing : turn.process.bind Activity.refreshing? = stage?)
    (querying : turn.process.bind Activity.querying? = query?) : Leaves o o' id stage? query? := by
  refine .of_process takes.process takes.nextId ?_ refreshing querying
  rw [ha]
  nofun

theorem Refreshes.leaves (h : Refreshes o t call) (leaves : Leaves o o' id none query?)
    (same : t'.refreshes = t.refreshes) : Refreshes o' t' call := by
  refine h.of_less (fun id' stage hstage => ?_) same
  rw [leaves.refreshing] at hstage
  exact (Option.ite_none_left_eq_some.1 hstage).2

theorem Queries.leaves (h : Queries o t) (leaves : Leaves o o' id stage? none)
    (same : t'.queries = t.queries) : Queries o' t' := by
  refine h.of_less (fun id' query hquery => ?_) leaves.unused leaves.nextId same
  rw [leaves.querying] at hquery
  exact (Option.ite_none_left_eq_some.1 hquery).2

/-- A refresh has taken a turn in a call that is not that of another activity. -/
theorem Refreshes.take {s : ChainView ω × RefreshProgress} (h : Refreshes o t call)
    (leaves : Leaves o o' id s.2.stage? query?) (now : Nat) (k : ProcessId)
    (turns : List (ChainTurn ω))
    (free : ∀ id' stage, id' ≠ id → o.refreshing? id' = some stage → call id' ≠ k) :
    Refreshes o' (t.takeRefresh now k turns s) (Function.update call id k) where
  waiting id' stage hstage := by
    rw [leaves.refreshing] at hstage
    by_cases hid : id' = id
    · rw [if_pos hid] at hstage
      rw [hid, Function.update_self, ← RefreshProgress.eq_waiting hstage]
      exact ⟨_, Table.find?_insert_self ..⟩
    · rw [if_neg hid] at hstage
      obtain ⟨turns', hfind⟩ := h.waiting id' stage hstage
      rw [Function.update_of_ne hid]
      exact ⟨turns', (Table.find?_insert_of_ne _ (free id' stage hid hstage) _).trans hfind⟩
  apart id₁ id₂ stage₁ stage₂ h₁ h₂ hcall := by
    rw [leaves.refreshing] at h₁ h₂
    by_cases hid₁ : id₁ = id
    · by_cases hid₂ : id₂ = id
      · rw [hid₁, hid₂]
      · rw [if_neg hid₂] at h₂
        rw [hid₁, Function.update_self, Function.update_of_ne hid₂] at hcall
        exact absurd hcall.symm (free id₂ stage₂ hid₂ h₂)
    · rw [if_neg hid₁] at h₁
      by_cases hid₂ : id₂ = id
      · rw [hid₂, Function.update_self, Function.update_of_ne hid₁] at hcall
        exact absurd hcall (free id₁ stage₁ hid₁ h₁)
      · rw [if_neg hid₂] at h₂
        rw [Function.update_of_ne hid₁, Function.update_of_ne hid₂] at hcall
        exact h.apart id₁ id₂ stage₁ stage₂ h₁ h₂ hcall

/-- A query has taken a turn. -/
theorem Queries.take {s : ChainView ω × QueryProgress} {target : QueryTarget} (h : Queries o t)
    (leaves : Leaves o o' id stage? (s.2.stage?.map fun stage => (target, some stage)))
    (known : Schedule.process? o id ≠ none) (now : Nat) (turns : List (ChainTurn ω)) :
    Queries o' (t.takeQuery now id target turns s) where
  waiting id' target' stage hquery := by
    rw [leaves.querying] at hquery
    by_cases hid : id' = id
    · rw [if_pos hid] at hquery
      obtain ⟨stage', hstage, heq⟩ := Option.map_eq_some_iff.1 hquery
      cases heq
      rw [hid, ← QueryProgress.eq_waiting hstage]
      exact ⟨_, Table.find?_insert_self ..⟩
    · rw [if_neg hid] at hquery
      obtain ⟨turns', hfind⟩ := h.waiting id' target' stage hquery
      exact ⟨turns', (Table.find?_insert_of_ne _ hid _).trans hfind⟩
  fresh id' target' hquery := by
    rw [leaves.querying] at hquery
    by_cases hid : id' = id
    · rw [if_pos hid] at hquery
      obtain ⟨stage', -, heq⟩ := Option.map_eq_some_iff.1 hquery
      cases heq
    · rw [if_neg hid] at hquery
      exact (Table.find?_insert_of_ne _ hid _).trans (h.fresh id' target' hquery)
  unused id' hid := by
    obtain ⟨hprocess, hfind⟩ := h.unused id' (leaves.nextId ▸ hid)
    have hne : id' ≠ id := by
      rintro rfl
      exact known hprocess
    exact ⟨leaves.unused id' hprocess, (Table.find?_insert_of_ne _ hne _).trans hfind⟩

/-! ## Steps -/

theorem process?_spawn_cases {a b : Activity}
    (h : Schedule.process? (Schedule.spawn o a).1 id = some b) :
    Schedule.process? o id = some b ∨ id = o.nextId ∧ b = a := by
  rw [Schedule.process?_spawn, Option.or_eq_some_iff] at h
  rcases h with hold | ⟨-, hnew⟩
  · exact .inl hold
  · obtain ⟨hid, heq⟩ := Option.ite_none_right_eq_some.1 hnew
    exact .inr ⟨hid, (Option.some.inj heq).symm⟩

theorem Refreshes.spawn (h : Refreshes o t call) {a : Activity} (fresh : a.Fresh) :
    Refreshes (Schedule.spawn o a).1 t call := by
  refine h.of_less (fun id stage hstage => ?_) rfl
  obtain ⟨b, hprocess, hb⟩ := Option.bind_eq_some_iff.1 hstage
  rcases process?_spawn_cases hprocess with hold | ⟨-, rfl⟩
  · exact Option.bind_eq_some_iff.2 ⟨b, hold, hb⟩
  · rw [fresh.refreshing] at hb
    cases hb

theorem Queries.spawn (h : Queries o t) {a : Activity} (fresh : a.Fresh) :
    Queries (Schedule.spawn o a).1 t where
  waiting id target stage hquery := by
    obtain ⟨b, hprocess, hb⟩ := Option.bind_eq_some_iff.1 hquery
    rcases process?_spawn_cases hprocess with hold | ⟨-, rfl⟩
    · exact h.waiting id target stage (Option.bind_eq_some_iff.2 ⟨b, hold, hb⟩)
    · exact absurd hb (fresh.querying target stage)
  fresh id target hquery := by
    obtain ⟨b, hprocess, hb⟩ := Option.bind_eq_some_iff.1 hquery
    rcases process?_spawn_cases hprocess with hold | ⟨rfl, -⟩
    · exact h.fresh id target (Option.bind_eq_some_iff.2 ⟨b, hold, hb⟩)
    · exact (h.unused o.nextId (Nat.le_refl _)).2
  unused id hid := by
    obtain ⟨hprocess, hfind⟩ := h.unused id (Nat.le_of_succ_le hid)
    refine ⟨Option.eq_none_iff_forall_ne_some.2 fun b hb => ?_, hfind⟩
    rcases process?_spawn_cases hb with hold | ⟨rfl, -⟩
    · rw [hprocess] at hold
      cases hold
    · exact Nat.not_succ_le_self _ hid

variable [Collaborators ω] {config : GatewayConfig}

omit [Collaborators ω] in
theorem Follows.begin (config : GatewayConfig) (outside : ω) :
    Follows (begin config outside) (Traffic.begin config outside) where
  gateway := rfl
  refreshes := ⟨id, nofun, nofun⟩
  queries := ⟨nofun, nofun, fun _ _ => ⟨rfl, rfl⟩⟩

/-- Something has happened beside the calls. -/
theorem Follows.other {g : Gateway ω} (h : Follows o t) (reached : Traffic.Reached config t)
    (hcache : g.cache = o.gateway.cache) (hfallbacks : g.fallbacks = o.gateway.fallbacks) :
    Traffic.Reached config { t with gateway := g } := by
  refine reached.move (.other ?_ ?_)
  · rw [h.gateway, hcache]
    exact .refl _
  · rw [h.gateway, hfallbacks]

/-- A turn of an activity is a move of the traffic. -/
theorem Follows.turn (h : Follows o t) (reached : Traffic.Reached config t) {a : Activity}
    (ha : Schedule.process? o id = some a)
    (takes : Schedule.Takes o o' id (World.run o.now id a o.shared)) :
    ∃ t', Traffic.Reached config t' ∧ Follows o' t' := by
  obtain ⟨call, hrefreshes⟩ := h.refreshes
  have hgateway : t.gateway.view = o.shared.gateway.view := congrArg Gateway.view h.gateway
  -- The traffic and the operation have the same gateway, so the turn leaves them the same one.
  have hafter : ∀ v : ChainView ω, (World.run o.now id a o.shared).shared.gateway =
      o.shared.gateway.withView v → t.gateway.withView v = o'.gateway := by
    intro v hv
    unfold Operation.gateway
    rw [takes.shared, hv, h.gateway]
    rfl
  cases World.run_acts o.now id a o.shared with
  | refresh after =>
    -- A loop may have refreshed before, so the new refresh is a call of its own.
    obtain ⟨k, hk⟩ := t.refreshes.exists_unused
    have hleaves := leaves_of_takes ha takes after.refreshing after.querying
    refine ⟨_, reached.move (.refresh o.now k hk), ?_⟩
    rw [hgateway]
    refine ⟨hafter _ after.gateway, ⟨_, hrefreshes.take hleaves o.now k [] ?_⟩,
      h.queries.leaves hleaves rfl⟩
    rintro id' stage hid hstage rfl
    obtain ⟨turns, hfind⟩ := hrefreshes.waiting id' stage hstage
    rw [hk] at hfind
    cases hfind
  | @refreshOn stage waiting after =>
    have hstage : o.refreshing? id = some stage := Option.bind_eq_some_iff.2 ⟨a, ha, waiting⟩
    obtain ⟨turns, hfind⟩ := hrefreshes.waiting id stage hstage
    have hleaves := leaves_of_takes ha takes after.refreshing after.querying
    refine ⟨_, reached.move (.refreshOn o.now (call id) hfind), ?_⟩
    rw [hgateway]
    refine ⟨hafter _ after.gateway, ⟨_, hrefreshes.take hleaves o.now (call id) turns ?_⟩,
      h.queries.leaves hleaves rfl⟩
    intro id' stage' hid hstage' hcall
    exact hid (hrefreshes.apart id' id stage' stage hstage' hstage hcall)
  | @query target asks after =>
    -- The id of the activity was not used for a query before, since each activity makes one.
    have hquery : o.querying? id = some (target, none) := Option.bind_eq_some_iff.2 ⟨a, ha, asks⟩
    have hleaves := leaves_of_takes ha takes after.refreshing after.querying
    refine ⟨_, reached.move (.query o.now id target (h.queries.fresh id target hquery)), ?_⟩
    rw [hgateway]
    exact ⟨hafter _ after.gateway, ⟨call, hrefreshes.leaves hleaves rfl⟩,
      h.queries.take hleaves (by rw [ha]; nofun) o.now []⟩
  | @queryOn target stage waiting after =>
    have hquery : o.querying? id = some (target, some stage) :=
      Option.bind_eq_some_iff.2 ⟨a, ha, waiting⟩
    obtain ⟨turns, hfind⟩ := h.queries.waiting id target stage hquery
    have hleaves := leaves_of_takes ha takes after.refreshing after.querying
    refine ⟨_, reached.move (.queryOn o.now id hfind), ?_⟩
    rw [hgateway]
    exact ⟨hafter _ after.gateway, ⟨call, hrefreshes.leaves hleaves rfl⟩,
      h.queries.take hleaves (by rw [ha]; nofun) o.now turns⟩
  | aside beside =>
    have hleaves := leaves_of_takes ha takes beside.refreshing beside.querying
    obtain ⟨hcache, hfallbacks⟩ := Gateway.cache_of_asides beside.asides
    rw [← takes.shared] at hcache hfallbacks
    exact ⟨_, h.other reached hcache hfallbacks, rfl, ⟨call, hrefreshes.leaves hleaves rfl⟩,
      h.queries.leaves hleaves rfl⟩

/-- A step that leaves the activities alone and changes nothing but what is beside the cache. -/
theorem Follows.beside (h : Follows o t) (reached : Traffic.Reached config t)
    (process : Schedule.process? o' = Schedule.process? o) (nextId : o'.nextId = o.nextId)
    (hcache : o'.gateway.cache = o.gateway.cache)
    (hfallbacks : o'.gateway.fallbacks = o.gateway.fallbacks) :
    ∃ t', Traffic.Reached config t' ∧ Follows o' t' := by
  obtain ⟨call, hrefreshes⟩ := h.refreshes
  refine ⟨_, h.other reached hcache hfallbacks, rfl, ⟨call, hrefreshes.of_less ?_ rfl⟩,
    h.queries.of_less ?_ ?_ nextId rfl⟩
  · intro id stage hstage
    unfold refreshing? at *
    rwa [← process]
  · intro id query hquery
    unfold querying? at *
    rwa [← process]
  · intro id hnone
    rwa [process]

/-- Every step of the operation is a move of the traffic, or none. -/
theorem Step.follows (step : Step o o') (h : Follows o t) (reached : Traffic.Reached config t) :
    ∃ t', Traffic.Reached config t' ∧ Follows o' t' := by
  cases step with
  | turn =>
    rcases Schedule.step_takes World.run o with ⟨queue, heq⟩ | ⟨id, a, ha, takes⟩
    · rw [heq]
      exact h.beside reached rfl rfl rfl rfl
    · exact h.turn reached ha takes
  | ring t later => exact h.beside reached rfl rfl rfl rfl
  | wait t => exact h.beside reached rfl rfl rfl rfl
  | wake ids => exact h.beside reached rfl rfl rfl rfl
  | spawn a fresh =>
    obtain ⟨call, hrefreshes⟩ := h.refreshes
    exact ⟨t, reached, h.gateway, ⟨call, hrefreshes.spawn fresh⟩, h.queries.spawn fresh⟩
  | remove id =>
    obtain ⟨call, hrefreshes⟩ := h.refreshes
    exact ⟨t, reached, h.gateway, ⟨call, hrefreshes.leaves (leaves_remove o id) rfl⟩,
      h.queries.leaves (leaves_remove o id) rfl⟩
  | aside aside => exact h.beside reached rfl rfl aside.cache aside.fallbacks
  | surround same =>
    exact h.beside reached rfl rfl (congrArg Gateway.cache same) (congrArg Gateway.fallbacks same)

/-- A gateway in operation comes to no state that its traffic does not come to. -/
theorem Steps.traffic {outside : ω} (steps : Steps (begin config outside) o) :
    ∃ t, Traffic.Reached config t ∧ t.gateway = o.gateway := by
  have hfollowed : ∃ t, Traffic.Reached config t ∧ Follows o t := by
    induction steps with
    | refl => exact ⟨_, .begin config outside, .begin config outside⟩
    | tail _ step ih =>
      obtain ⟨t, hreached, hfollows⟩ := ih
      exact step.follows hfollows hreached
  obtain ⟨t, hreached, hfollows⟩ := hfollowed
  exact ⟨t, hreached, hfollows.gateway⟩

end Operation
end RelayGateway
