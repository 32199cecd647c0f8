import RelayGateway.Proofs.Cache.Gathering
import RelayGateway.Proofs.Schedule

/-! # The course of a refresh

A refresh takes turns; between them anything may happen to the cache, the monitor and the
collaborators. What it has come to after its turns follows from what the chain has answered: all but
the last turn of a refresh that succeeds are quiet, and every turn of one that fails.
-/
namespace RelayGateway
variable {ω : Type}

/-! ## Turns -/

/-- What the cache publishes is left alone; at most the cache learns that there are applications. -/
structure SessionCache.Quiet (c c' : SessionCache) : Prop where
  config : c'.config = c.config
  snapshot : c'.snapshot = c.snapshot
  appsSeen : c.appsSeen = true → c'.appsSeen = true
  sessionsSeen : c'.sessionsSeen = c.sessionsSeen

structure SessionCache.Publishes (now : Nat) (apps : List Application)
    (fetched : List (SessionJob × Session)) (c c' : SessionCache) : Prop where
  config : c'.config = c.config
  snapshot : c'.snapshot = Snapshot.built now apps fetched
  appsSeen : c.appsSeen = true → c'.appsSeen = true
  sessionsSeen : c'.sessionsSeen = (c.sessionsSeen || !fetched.isEmpty)

namespace SessionCache
variable {a b c : SessionCache} {now : Nat} {apps : List Application}
variable {fetched : List (SessionJob × Session)}

theorem Quiet.refl (c : SessionCache) : Quiet c c := ⟨rfl, rfl, id, rfl⟩

theorem Quiet.trans (h : Quiet a b) (h' : Quiet b c) : Quiet a c where
  config := h'.config.trans h.config
  snapshot := h'.snapshot.trans h.snapshot
  appsSeen := h'.appsSeen ∘ h.appsSeen
  sessionsSeen := h'.sessionsSeen.trans h.sessionsSeen

theorem Quiet.publishes (h : Quiet a b) (h' : Publishes now apps fetched b c) :
    Publishes now apps fetched a c where
  config := h'.config.trans h.config
  snapshot := h'.snapshot
  appsSeen := h'.appsSeen ∘ h.appsSeen
  sessionsSeen := h.sessionsSeen ▸ h'.sessionsSeen

end SessionCache

namespace ChainView
variable {u v w : ChainView ω}

structure Quiet (v v' : ChainView ω) : Prop where
  cache : v.cache.Quiet v'.cache
  rollover : v'.rollover = v.rollover

theorem Quiet.refl (v : ChainView ω) : Quiet v v := ⟨.refl v.cache, rfl⟩

theorem Quiet.trans (h : Quiet u v) (h' : Quiet v w) : Quiet u w :=
  ⟨h.cache.trans h'.cache, h'.rollover.trans h.rollover⟩

theorem foldl_noteSession (l : List (SessionJob × Session)) (v : ChainView ω) :
    (l.foldl (fun v e => v.noteSession e.2.header) v).cache = v.cache ∧
      (l.foldl (fun v e => v.noteSession e.2.header) v).outside = v.outside := by
  induction l generalizing v with
  | nil => exact ⟨rfl, rfl⟩
  | cons x rest ih => exact ih (v.noteSession x.2.header)

end ChainView

theorem Refresh.publish_publishes {fetched : List (SessionJob × Session)}
    (hd : (fetched.map Prod.fst).Nodup) (now : Nat) (apps : List Application) (v : ChainView ω) :
    v.cache.Publishes now apps fetched (publish now apps fetched v).cache ∧
      (publish now apps fetched v).outside = v.outside := by
  obtain ⟨hcache, houtside⟩ := ChainView.foldl_noteSession (Snapshot.inOrder fetched) v
  unfold publish
  dsimp only
  rw [hcache]
  exact ⟨⟨rfl, rfl, id, by rw [Snapshot.isEmpty_sessions hd]⟩, houtside⟩

structure ChainTurn (ω : Type) where
  now : Nat
  before : ChainView ω
  after : ChainView ω

namespace Refresh
open RoundEvent
variable [Collaborators ω] {config : CacheConfig} {turns : List (ChainTurn ω)} {last : ChainTurn ω}
variable {timeout : Nat} {events : List RoundEvent} {apps : List Application}

/-! ## Courses -/

/-- The turns that a refresh has taken under a configuration, and what it has come to. -/
inductive Course (config : CacheConfig) : List (ChainTurn ω) → RefreshProgress → Prop
  | start {now : Nat} {v : ChainView ω} (same : v.cache.config = config) :
      Course config [⟨now, v, (start now v).1⟩] (start now v).2
  | resume {turns : List (ChainTurn ω)} {stage : RefreshStage} {now : Nat} {v : ChainView ω}
      (course : Course config turns (.waiting stage)) (same : v.cache.config = config) :
      Course config (turns ++ [⟨now, v, (resume now v stage).1⟩]) (resume now v stage).2

def Lists (answer : Pending (Except ChainError (List Application))) (turns : List (ChainTurn ω)) :
    Prop :=
  ∃ first, turns.head? = some first ∧
    (Collaborators.fetchApps first.now first.before.outside).1 = answer

def Listed (result : Except ChainError (List Application)) (turns : List (ChainTurn ω)) : Prop :=
  ∃ answer, Lists answer turns ∧ ∃ turn ∈ turns, answer.ready? turn.now = some result

/-- What the turns of a refresh do outside is to ask for the applications, and then these events. -/
inductive Happened (timeout : Nat) : List (ChainTurn ω) → List RoundEvent → Prop
  | first {turn : ChainTurn ω} {events : List RoundEvent}
      (happen : Happen turn.now timeout (Collaborators.fetchApps turn.now turn.before.outside).2
        events turn.after.outside) : Happened timeout [turn] events
  | later {turns : List (ChainTurn ω)} {turn : ChainTurn ω} {events more : List RoundEvent}
      (before : Happened timeout turns events)
      (happen : Happen turn.now timeout turn.before.outside more turn.after.outside) :
      Happened timeout (turns ++ [turn]) (events ++ more)

/-! ## What a refresh asks for -/

def Names (apps : List Application) (job : SessionJob) : Prop :=
  ∃ app ∈ apps, job.serviceId ∈ app.serviceIds ∧ job.appAddress = app.address

/-- The lookups that these events ask for are for pairs that the applications name, never two for one
pair, and at each moment at most `workers` of them are in flight. -/
structure Orderly (apps : List Application) (workers : Nat) (events : List RoundEvent) : Prop where
  named : ∀ lookup ∈ lookups events, Names apps lookup.job
  once : ((lookups events).map RunningJob.job).Nodup
  bounded : ∀ before, before <+: events → ∃ inFlight,
    (lookups before).Perm (inFlight ++ ends before) ∧ inFlight.length ≤ workers

/-- Every pair that the applications name has been looked up, and every lookup has ended. -/
structure Complete (apps : List Application) (events : List RoundEvent) : Prop where
  all : ∀ job, Names apps job → ∃ lookup ∈ lookups events, lookup.job = job
  ended : (ends events).Perm (lookups events)

/-- When every lookup has ended, the sessions are what the chain has answered to those that were
asked. -/
theorem mem_sessions_of_complete (h : Complete apps events) (job : SessionJob) (session : Session) :
    (job, session) ∈ sessions events ↔ ∃ lookup ∈ lookups events, lookup.job = job ∧
      ∃ now, ended lookup now ∈ events ∧ lookup.answer.ready? now = some (.ok session) := by
  rw [mem_sessions]
  constructor
  · rintro ⟨lookup, now, hended, hjob, hready⟩
    exact ⟨lookup, h.ended.mem_iff.1 (mem_ends.2 ⟨now, hended⟩), hjob, now, hended, hready⟩
  · rintro ⟨lookup, -, hjob, now, hended, hready⟩
    exact ⟨lookup, now, hended, hjob, hready⟩

/-! ## What a refresh has come to -/

/-- The chain has listed applications, and a round over their jobs has come to `r` by these events. -/
structure Gathers (config : CacheConfig) (turns : List (ChainTurn ω)) (apps : List Application)
    (events : List RoundEvent) (r : SessionRound) : Prop where
  listed : Listed (.ok apps) turns
  some : apps ≠ []
  happened : Happened config.fetchTimeout turns events
  account : SessionRound.Account (SessionJob.ofApps apps) config.workers events r

theorem Gathers.orderly (h : Gathers config turns apps events r) :
    Orderly apps config.workers events := by
  have hjobs := h.account.jobs
  refine ⟨?_, ?_, h.account.bounded⟩
  · intro lookup hlookup
    refine SessionJob.mem_ofApps.1 ?_
    rw [← hjobs]
    exact List.mem_append_left _ (List.mem_map_of_mem hlookup)
  · exact (SessionJob.nodup_ofApps apps).sublist (hjobs ▸ List.sublist_append_left ..)

theorem Gathers.complete {fetched : List (SessionJob × Session)}
    (h : Gathers config turns apps events ⟨[], [], fetched⟩) : Complete apps events := by
  have hjobs := h.account.jobs
  rw [List.append_nil] at hjobs
  refine ⟨?_, h.account.flight.symm⟩
  intro job hjob
  exact List.mem_map.1 (hjobs ▸ SessionJob.mem_ofApps.2 hjob)

inductive Stands (config : CacheConfig) (turns : List (ChainTurn ω)) : RefreshProgress → Prop
  | listing {answer : Pending (Except ChainError (List Application))} {deadline : Nat}
      (lists : Lists answer turns) (unanswered : ∀ turn ∈ turns, answer.ready? turn.now = none)
      (happened : Happened config.fetchTimeout turns [])
      (quiet : ∀ turn ∈ turns, turn.before.Quiet turn.after) :
      Stands config turns (.waiting (.listing answer deadline))
  | unlisted {e : CacheError} (unlisted : ∀ apps, Listed (.ok apps) turns → apps = [])
      (quiet : ∀ turn ∈ turns, turn.before.Quiet turn.after) : Stands config turns (.done (.error e))
  | gathering {apps : List Application} {events : List RoundEvent} {r : SessionRound}
      {turn : ChainTurn ω} (gathers : Gathers config turns apps events r)
      (last : turns.getLast? = some turn) (settled : SessionRound.Settled turn.now config.workers r)
      (unfinished : r.running ≠ [] ∨ r.waiting ≠ [])
      (quiet : ∀ turn ∈ turns, turn.before.Quiet turn.after) :
      Stands config turns (.waiting (.gathering apps r))
  | failed {apps : List Application} {events : List RoundEvent}
      (gathers : Gathers config turns apps events ⟨[], [], []⟩)
      (quiet : ∀ turn ∈ turns, turn.before.Quiet turn.after) :
      Stands config turns (.done (.error (.noSessions (SessionJob.ofApps apps).length)))
  | refreshed {apps : List Application} {events : List RoundEvent} {earlier : List (ChainTurn ω)}
      {last : ChainTurn ω} (gathers : Gathers config turns apps events ⟨[], [], sessions events⟩)
      (fetched : sessions events = [] → SessionJob.ofApps apps = [])
      (split : turns = earlier ++ [last])
      (publishes : last.before.cache.Publishes last.now apps (sessions events) last.after.cache)
      (quiet : ∀ turn ∈ earlier, turn.before.Quiet turn.after) :
      Stands config turns (.done (.ok (statsOf apps (Snapshot.assemble (sessions events)))))

structure Enters (config : CacheConfig) (turns : List (ChainTurn ω)) (last : ChainTurn ω)
    (v : ChainView ω) : Prop where
  split : ∃ earlier, turns = earlier ++ [last] ∧ ∀ turn ∈ earlier, turn.before.Quiet turn.after
  config : v.cache.config = config
  quiet : last.before.Quiet v

omit [Collaborators ω] in
/-- If the last turn is quiet to its end, all turns have been. -/
theorem Enters.quiet_all {v : ChainView ω} (h : Enters config turns last v)
    (hlast : v.Quiet last.after) : ∀ turn ∈ turns, turn.before.Quiet turn.after := by
  obtain ⟨earlier, rfl, hquiet⟩ := h.split
  intro turn hturn
  rcases List.mem_append.1 hturn with hearlier | hturn
  · exact hquiet turn hearlier
  · rw [List.mem_singleton.1 hturn]
    exact h.quiet.trans hlast

omit [Collaborators ω] in
theorem Enters.getLast? {v : ChainView ω} (h : Enters config turns last v) :
    turns.getLast? = some last := by
  obtain ⟨earlier, rfl, -⟩ := h.split
  exact List.getLast?_concat

theorem stands_gather (last : ChainTurn ω) {v : ChainView ω} {r : SessionRound}
    (h : Enters config turns last v) (hafter : (gather last.now apps v r).1 = last.after)
    (hlisted : Listed (.ok apps) turns) (hsome : apps ≠ [])
    (haccount : SessionRound.Account (SessionJob.ofApps apps) config.workers events r)
    (hhappened : ∀ more, Happen last.now config.fetchTimeout v.outside more last.after.outside →
      Happened config.fetchTimeout turns (events ++ more)) :
    Stands config turns (gather last.now apps v r).2 := by
  obtain ⟨more, hsteps, hsettled⟩ := SessionRound.advance_steps last.now config.fetchTimeout
    config.workers r v.outside
  have hhappen := hsteps.happen
  replace haccount := haccount.steps hsteps
  -- From here on only what the turn of the round has come to matters, not how.
  unfold gather at hafter ⊢
  dsimp only at hafter ⊢
  rw [h.config] at hafter ⊢
  generalize r.advance last.now config.fetchTimeout config.workers v.outside = s at *
  obtain ⟨⟨waiting, running, fetched⟩, outside⟩ := s
  have hgathers : last.after.outside = outside →
      Gathers config turns apps (events ++ more) ⟨waiting, running, fetched⟩ := by
    rintro rfl
    exact ⟨hlisted, hsome, hhappened more hhappen, haccount⟩
  have hquiet : v.Quiet { v with outside } := ⟨.refl v.cache, rfl⟩
  unfold afterGathering at hafter ⊢
  dsimp only at hafter hsettled ⊢
  by_cases hunfinished : (!running.isEmpty || !waiting.isEmpty) = true
  · rw [if_pos hunfinished] at hafter ⊢
    refine .gathering (hgathers (hafter ▸ rfl)) h.getLast? hsettled ?_ (h.quiet_all (hafter ▸ hquiet))
    simpa using hunfinished
  · rw [if_neg hunfinished] at hafter ⊢
    have hfinished : running = [] ∧ waiting = [] := by simpa using hunfinished
    obtain ⟨rfl, rfl⟩ := hfinished
    have hfetched : fetched = sessions (events ++ more) := haccount.fetched
    by_cases hnone : (fetched.isEmpty && !(SessionJob.ofApps apps).isEmpty) = true
    · rw [if_pos hnone] at hafter ⊢
      rw [Bool.and_eq_true, List.isEmpty_iff] at hnone
      obtain ⟨rfl, -⟩ := hnone
      exact .failed (hgathers (hafter ▸ rfl)) (h.quiet_all (hafter ▸ hquiet))
    · rw [if_neg hnone] at hafter ⊢
      obtain ⟨earlier, hsplit, hearlier⟩ := h.split
      have hnodup := haccount.nodup_sessions (SessionJob.nodup_ofApps apps)
      obtain ⟨hpublishes, houtside⟩ := publish_publishes hnodup last.now apps { v with outside }
      subst hfetched
      dsimp only at hafter
      rw [hafter] at hpublishes houtside
      refine .refreshed (hgathers houtside) ?_ hsplit
        ((h.quiet.trans hquiet).cache.publishes hpublishes) hearlier
      intro hempty
      rw [hempty] at hnone
      simpa using hnone

/-- The call for the applications has one answer. -/
theorem Lists.unique {answer answer' : Pending (Except ChainError (List Application))}
    (h : Lists answer turns) (h' : Lists answer' turns) : answer = answer' := by
  obtain ⟨first, hfirst, rfl⟩ := h
  obtain ⟨first', hfirst', rfl⟩ := h'
  rw [hfirst] at hfirst'
  cases hfirst'
  rfl

theorem Listed.unique {result result' : Except ChainError (List Application)}
    (h : Listed result turns) (h' : Listed result' turns) : result = result' := by
  obtain ⟨answer, hlists, turn, -, hready⟩ := h
  obtain ⟨answer', hlists', turn', -, hready'⟩ := h'
  cases hlists.unique hlists'
  exact (Pending.answer_of_ready? hready).symm.trans (Pending.answer_of_ready? hready')

theorem Listed.getLast? {result : Except ChainError (List Application)} (h : Listed result turns) :
    ∃ last, turns.getLast? = some last := by
  obtain ⟨-, -, turn, hturn, -⟩ := h
  exact ⟨_, List.getLast?_eq_some_getLast (List.ne_nil_of_mem hturn)⟩

theorem stands_afterListing (last : ChainTurn ω) {v : ChainView ω}
    {result : Except ChainError (List Application)} (h : Enters config turns last v)
    (hafter : (afterListing last.now v result).1 = last.after) (hlisted : Listed result turns)
    (hhappened : ∀ more, Happen last.now config.fetchTimeout v.outside more last.after.outside →
      Happened config.fetchTimeout turns more) :
    Stands config turns (afterListing last.now v result).2 := by
  cases result with
  | error e =>
    refine .unlisted ?_ (h.quiet_all (hafter ▸ .refl v))
    intro apps happs
    cases hlisted.unique happs
  | ok apps =>
    unfold afterListing at hafter ⊢
    dsimp only at hafter ⊢
    by_cases hempty : apps.isEmpty = true
    · rw [if_pos hempty] at hafter ⊢
      refine .unlisted ?_ (h.quiet_all (hafter ▸ .refl v))
      intro apps' happs'
      cases hlisted.unique happs'
      exact List.isEmpty_iff.1 hempty
    · rw [if_neg hempty] at hafter ⊢
      have hquiet : v.Quiet { v with cache := { v.cache with appsSeen := true } } :=
        ⟨⟨rfl, rfl, fun _ => rfl, rfl⟩, rfl⟩
      exact stands_gather last ⟨h.split, h.config, h.quiet.trans hquiet⟩ hafter hlisted
        (mt List.isEmpty_iff.2 hempty) (.start ..) hhappened

theorem stands_awaitListing (last : ChainTurn ω) {v : ChainView ω} {deadline : Nat}
    {answer : Pending (Except ChainError (List Application))} (h : Enters config turns last v)
    (hafter : (awaitListing last.now v answer deadline).1 = last.after) (hlists : Lists answer turns)
    (hunanswered : answer.ready? last.now = none → ∀ turn ∈ turns, answer.ready? turn.now = none)
    (hhappened : ∀ more, Happen last.now config.fetchTimeout v.outside more last.after.outside →
      Happened config.fetchTimeout turns more) :
    Stands config turns (awaitListing last.now v answer deadline).2 := by
  unfold awaitListing at hafter ⊢
  cases hready : answer.ready? last.now with
  | some result =>
    rw [hready] at hafter
    obtain ⟨earlier, hsplit, -⟩ := h.split
    have hlast : last ∈ turns := hsplit ▸ List.mem_append_right _ List.mem_cons_self
    exact stands_afterListing last h hafter ⟨answer, hlists, last, hlast, hready⟩ hhappened
  | none =>
    rw [hready] at hafter
    dsimp only at hafter ⊢
    by_cases hdue : deadline ≤ last.now
    · rw [if_pos hdue] at hafter ⊢
      refine .unlisted ?_ (h.quiet_all (hafter ▸ .refl v))
      rintro apps ⟨answer', hlists', turn, hturn, hready'⟩
      rw [← hlists.unique hlists', hunanswered hready turn hturn] at hready'
      cases hready'
    · rw [if_neg hdue] at hafter ⊢
      dsimp only at hafter
      refine .listing hlists (hunanswered hready) (hhappened [] ?_) (h.quiet_all (hafter ▸ .refl v))
      rw [← hafter]
      exact .none

theorem Lists.append {answer : Pending (Except ChainError (List Application))}
    (h : Lists answer turns) (more : List (ChainTurn ω)) : Lists answer (turns ++ more) := by
  obtain ⟨first, hfirst, hanswer⟩ := h
  exact ⟨first, by rw [List.head?_append, hfirst]; rfl, hanswer⟩

theorem Listed.append {result : Except ChainError (List Application)} (h : Listed result turns)
    (more : List (ChainTurn ω)) : Listed result (turns ++ more) := by
  obtain ⟨answer, hlists, turn, hturn, hready⟩ := h
  exact ⟨answer, hlists.append more, turn, List.mem_append_left _ hturn, hready⟩

theorem stands_start {now : Nat} {v : ChainView ω} (same : v.cache.config = config) :
    Stands config [⟨now, v, (start now v).1⟩] (start now v).2 := by
  -- The turn ends with the view that is computed; naming it lets the lemmas take any last turn.
  generalize hafter : (start now v).1 = after
  unfold start at hafter ⊢
  generalize hcall : Collaborators.fetchApps now v.outside = call at hafter ⊢
  obtain ⟨answer, outside⟩ := call
  have henters : Enters config [⟨now, v, after⟩] ⟨now, v, after⟩ { v with outside } :=
    ⟨⟨[], rfl, fun _ => nofun⟩, same, .refl v.cache, rfl⟩
  refine stands_awaitListing _ henters hafter ⟨_, rfl, congrArg Prod.fst hcall⟩ ?_ ?_
  · intro hnone turn hturn
    rwa [List.mem_singleton.1 hturn]
  · intro more hmore
    refine .first ?_
    rw [hcall]
    exact hmore

theorem stands_resume {stage : RefreshStage} {now : Nat} {v : ChainView ω}
    (h : Stands config turns (.waiting stage)) (same : v.cache.config = config) :
    Stands config (turns ++ [⟨now, v, (resume now v stage).1⟩]) (resume now v stage).2 := by
  generalize hafter : (resume now v stage).1 = after
  cases h with
  | listing lists unanswered happened quiet =>
    refine stands_awaitListing ⟨now, v, after⟩ ⟨⟨turns, rfl, quiet⟩, same, .refl v⟩ hafter
      (lists.append _) ?_ fun _ => .later happened
    intro hnone turn hturn
    rcases List.mem_append.1 hturn with hearlier | hlast
    · exact unanswered turn hearlier
    · rwa [List.mem_singleton.1 hlast]
  | gathering gathers last settled unfinished quiet =>
    exact stands_gather ⟨now, v, after⟩ ⟨⟨turns, rfl, quiet⟩, same, .refl v⟩ hafter
      (gathers.listed.append _) gathers.some gathers.account fun _ => .later gathers.happened

/-- What a refresh has come to follows from its turns. -/
theorem Course.stands {progress : RefreshProgress} (h : Course config turns progress) :
    Stands config turns progress := by
  induction h with
  | start same => exact stands_start same
  | resume course same ih => exact stands_resume ih same

/-- A refresh that does not succeed is quiet in all its turns. -/
theorem Course.quiet {progress : RefreshProgress} (h : Course config turns progress)
    (hprogress : ∀ stats, progress ≠ .done (.ok stats)) :
    ∀ turn ∈ turns, turn.before.Quiet turn.after := by
  cases h.stands with
  | listing lists unanswered happened quiet => exact quiet
  | unlisted unlisted quiet => exact quiet
  | gathering gathers last settled unfinished quiet => exact quiet
  | failed gathers quiet => exact quiet
  | refreshed gathers fetched split publishes quiet => exact absurd rfl (hprogress _)

/-- The last turn of a refresh is quiet, or the refresh succeeds with it. -/
theorem Course.last_turn {turn : ChainTurn ω} {progress : RefreshProgress}
    (h : Course config (turns ++ [turn]) progress) : turn.before.Quiet turn.after ∨
      ∃ apps fetched stats, progress = .done (.ok stats) ∧
        turn.before.cache.Publishes turn.now apps fetched turn.after.cache := by
  by_cases hprogress : ∃ stats, progress = .done (.ok stats)
  · obtain ⟨stats, rfl⟩ := hprogress
    cases h.stands with
    | refreshed gathers fetched split publishes quiet =>
      cases (List.append_inj' split rfl).2
      exact .inr ⟨_, _, _, rfl, publishes⟩
  · refine .inl (h.quiet ?_ turn (List.mem_append_right _ List.mem_cons_self))
    exact fun stats hstats => hprogress ⟨stats, hstats⟩

theorem Course.config_last {turn : ChainTurn ω} {progress : RefreshProgress}
    (earlier : List (ChainTurn ω)) (h : Course config (earlier ++ [turn]) progress) :
    turn.after.cache.config = turn.before.cache.config := by
  rcases h.last_turn with hquiet | ⟨apps, fetched, stats, -, hpublishes⟩
  · exact hquiet.cache.config
  · exact hpublishes.config

/-- The snapshot that a refresh publishes, and leaves in the cache with its last turn, is made of the
applications that the chain has listed to it and of the sessions that the chain has answered its own
lookups with, one lookup for every pair that the applications name, and shows nothing else. -/
structure Built (config : CacheConfig) (turns : List (ChainTurn ω)) (last : ChainTurn ω)
    (apps : List Application) (events : List RoundEvent) (s : Snapshot) : Prop where
  listed : Listed (.ok apps) turns
  some : apps ≠ []
  happened : Happened config.fetchTimeout turns events
  orderly : Orderly apps config.workers events
  complete : Complete apps events
  answered : ∀ job session, (job, session) ∈ sessions events ↔
    ∃ lookup ∈ lookups events, lookup.job = job ∧
      ∃ now, ended lookup now ∈ events ∧ lookup.answer.ready? now = .some (.ok session)
  final : turns.getLast? = .some last
  left : last.after.cache.snapshot = s
  built : s = Snapshot.built last.now apps (sessions events)
  shows : s.Shows apps (sessions events)
  fetched : sessions events = [] → SessionJob.ofApps apps = []

theorem Course.built {stats : RefreshStats} (h : Course config turns (.done (.ok stats)))
    (hlast : turns.getLast? = some last) :
    ∃ apps events, Built config turns last apps events last.after.cache.snapshot := by
  cases h.stands with
  | @refreshed apps events earlier last' gathers fetched split publishes quiet =>
    have hsame : last' = last := by
      rw [split, List.getLast?_concat] at hlast
      exact Option.some.inj hlast
    subst hsame
    have hnodup := gathers.account.nodup_sessions (SessionJob.nodup_ofApps apps)
    refine ⟨apps, events, gathers.listed, gathers.some, gathers.happened, gathers.orderly,
      gathers.complete, mem_sessions_of_complete gathers.complete, hlast, rfl, publishes.snapshot, ?_,
      fetched⟩
    rw [publishes.snapshot]
    exact Snapshot.shows_built hnodup last'.now apps

/-! ## A refresh on its own -/

/-- The turns of a refresh with nothing between them, their times given from the last to the second,
and what it has come to. -/
def alone (v : ChainView ω) (first : Nat) :
    List Nat → List (ChainTurn ω) × ChainView ω × RefreshProgress
  | [] => ([⟨first, v, (start first v).1⟩], start first v)
  | now :: earlier =>
    match alone v first earlier with
    | (turns, v', .waiting stage) =>
      (turns ++ [⟨now, v', (resume now v' stage).1⟩], resume now v' stage)
    | s => s

theorem course_alone (v : ChainView ω) (first : Nat) (times : List Nat) :
    Course v.cache.config (alone v first times).1 (alone v first times).2.2 ∧
      (alone v first times).2.1.cache.config = v.cache.config := by
  induction times with
  | nil =>
    have hcourse : Course v.cache.config [⟨first, v, (start first v).1⟩] (start first v).2 :=
      .start rfl
    exact ⟨hcourse, hcourse.config_last []⟩
  | cons now earlier ih =>
    unfold alone
    generalize alone v first earlier = s at ih ⊢
    obtain ⟨turns, v', progress⟩ := s
    cases progress with
    | done result => exact ih
    | waiting stage =>
      have hcourse : Course v.cache.config (turns ++ [⟨now, v', (resume now v' stage).1⟩])
          (resume now v' stage).2 :=
        .resume ih.1 ih.2
      exact ⟨hcourse, (hcourse.config_last turns).trans ih.2⟩

theorem alone_turns (v : ChainView ω) (first : Nat) (times : List Nat) :
    ∃ later, (alone v first times).1 = ⟨first, v, (start first v).1⟩ :: later := by
  induction times with
  | nil => exact ⟨[], rfl⟩
  | cons now earlier ih =>
    unfold alone
    generalize alone v first earlier = s at ih ⊢
    obtain ⟨later, hturns⟩ := ih
    obtain ⟨turns, v', progress⟩ := s
    cases progress with
    | done result => exact ⟨later, hturns⟩
    | waiting stage => exact ⟨later ++ [_], congrArg (· ++ [_]) hturns⟩

/-- The applications are listed if the answer is there at once. -/
theorem listed_alone {result : Except ChainError (List Application)} (v : ChainView ω) (first : Nat)
    (times : List Nat) (h : (Collaborators.fetchApps first v.outside).1.ready? first = some result) :
    Listed result (alone v first times).1 := by
  obtain ⟨later, hturns⟩ := alone_turns v first times
  rw [hturns]
  exact ⟨_, ⟨_, rfl, rfl⟩, _, List.mem_cons_self, h⟩

/-- Applications that are listed at once are looked up in the same turn. -/
theorem start_of_listed {now : Nat} {v : ChainView ω} {apps : List Application} {jobs : List SessionJob}
    (hready : (Collaborators.fetchApps now v.outside).1.ready? now = some (.ok apps))
    (hjobs : SessionJob.ofApps apps = jobs) (hsome : apps ≠ []) :
    start now v = gather now apps
      { v with
        cache := { v.cache with appsSeen := true }
        outside := (Collaborators.fetchApps now v.outside).2 }
      ⟨jobs, [], []⟩ := by
  unfold start awaitListing
  dsimp only
  rw [hready, ← hjobs]
  exact if_neg (mt List.isEmpty_iff.1 hsome)

end Refresh
end RelayGateway
