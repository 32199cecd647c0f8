import RelayGateway.Process.Turns
import Mathlib.Logic.Relation

/-! # What a turn does

Everything that happens to a gateway in operation comes down to a few changes: what the chain has been
asked and what it has answered, what the relays share, what is recorded, swept, cleared and offered. A
turn of an activity is a turn of its refresh or of its query, or it makes changes beside the cache.
-/
namespace RelayGateway
open Relation

variable {ω : Type} [Collaborators ω]

namespace Gateway

inductive Change (now : Nat) (g : Gateway ω) : Gateway ω → Prop where
  | refresh : Change now g (g.withView (Refresh.start now g.view).1)
  | refreshOn (stage : RefreshStage) : Change now g (g.withView (Refresh.resume now g.view stage).1)
  | query (id : ProcessId) (target : QueryTarget) :
      Change now g (g.withView (World.startQuery now id target g.view).1)
  | queryOn (id : ProcessId) (stage : QueryStage) :
      Change now g (g.withView (Query.resume now id g.view stage).1)
  | outside (x : ω) : Change now g { g with outside := x }
  | height (height : Nat) :
      Change now g { g with rollover := g.rollover.map fun m => m.recordHeight height }
  | session (header : SessionHeader) :
      Change now g { g with rollover := g.rollover.map fun m => m.recordSession header }
  /-- What the relays share: permits, signatures, the collaborators. -/
  | relays (r : Relays ω) : Change now g (g.withRelays r)
  | sweepSanctions : Change now g { g with sanctions := g.sanctions.sweep now }
  | clearSanctions : Change now g { g with sanctions := g.sanctions.clear }
  | observe (o : RequestObservations) : Change now g (g.applyObservations now o)
  | details (service : ServiceId) : Change now g (g.sanctionDetails now service).1
  | build (service : ServiceId) (m : RequestMetadata) : Change now g (g.buildContext now service m).1
  | context (service : ServiceId) (offer : Offer) : Change now g (g.newContext service offer).1

abbrev Changes (now : Nat) : Gateway ω → Gateway ω → Prop := ReflTransGen (Change now)

structure Aside (now : Nat) (g g' : Gateway ω) : Prop where
  change : Change now g g'
  cache : g'.cache = g.cache
  fallbacks : g'.fallbacks = g.fallbacks

abbrev Asides (now : Nat) : Gateway ω → Gateway ω → Prop := ReflTransGen (Aside now)

variable {now : Nat} {g g' : Gateway ω}

theorem changes_of_asides (h : Asides now g g') : Changes now g g' :=
  ReflTransGen.mono (fun _ _ (aside : Aside now _ _) => aside.change) _ _ h

theorem cache_of_asides (h : Asides now g g') :
    g'.cache = g.cache ∧ g'.fallbacks = g.fallbacks := by
  induction h with
  | refl => exact ⟨rfl, rfl⟩
  | tail _ aside ih => exact ⟨aside.cache.trans ih.1, aside.fallbacks.trans ih.2⟩

theorem asides_relays (r : Relays ω) : Asides now g (g.withRelays r) :=
  .single ⟨.relays r, rfl, rfl⟩

end Gateway

/-! ## Calls that wait -/

def RefreshProgress.stage? : RefreshProgress → Option RefreshStage
  | .waiting stage => some stage
  | .done _ => none

def QueryProgress.stage? : QueryProgress → Option QueryStage
  | .waiting stage => some stage
  | .done _ => none

theorem RefreshProgress.eq_waiting {p : RefreshProgress} {stage : RefreshStage}
    (h : p.stage? = some stage) : p = .waiting stage := by
  cases p <;> cases h
  rfl

theorem QueryProgress.eq_waiting {p : QueryProgress} {stage : QueryStage}
    (h : p.stage? = some stage) : p = .waiting stage := by
  cases p <;> cases h
  rfl

namespace Activity

def refreshing? : Activity → Option RefreshStage
  | .refresh stage => stage
  | .loop _ _ (.refreshing _ stage) => some stage
  | _ => none

def querying? : Activity → Option (QueryTarget × Option QueryStage)
  | .query target stage => some (target, stage)
  | _ => none

end Activity

namespace World
variable {now : Nat} {id : ProcessId} {w w' : World ω} {turn : WorldTurn ω}

structure After (turn : WorldTurn ω) (w : World ω) (v : ChainView ω)
    (refreshing : Option RefreshStage) (querying : Option (QueryTarget × Option QueryStage)) :
    Prop where
  gateway : turn.shared.gateway = w.gateway.withView v
  refreshing : turn.process.bind Activity.refreshing? = refreshing
  querying : turn.process.bind Activity.querying? = querying

structure Beside (now : Nat) (w : World ω) (turn : WorldTurn ω) : Prop where
  asides : Gateway.Asides now w.gateway turn.shared.gateway
  refreshing : turn.process.bind Activity.refreshing? = none
  querying : turn.process.bind Activity.querying? = none

theorem Beside.after (h : Beside now w' turn) (asides : Gateway.Asides now w.gateway w'.gateway) :
    Beside now w turn :=
  ⟨asides.trans h.asides, h.refreshing, h.querying⟩

/-- A turn of an activity: a turn of a refresh, a turn of a query, or one beside the cache. -/
inductive Acts (now : Nat) (id : ProcessId) (w : World ω) (a : Activity) (turn : WorldTurn ω) : Prop
  | refresh (after : After turn w (Refresh.start now w.gateway.view).1
      (Refresh.start now w.gateway.view).2.stage? none)
  | refreshOn {stage : RefreshStage} (waiting : a.refreshing? = some stage)
      (after : After turn w (Refresh.resume now w.gateway.view stage).1
        (Refresh.resume now w.gateway.view stage).2.stage? none)
  | query {target : QueryTarget} (asks : a.querying? = some (target, none))
      (after : After turn w (startQuery now id target w.gateway.view).1 none
        ((startQuery now id target w.gateway.view).2.stage?.map fun stage => (target, some stage)))
  | queryOn {target : QueryTarget} {stage : QueryStage}
      (waiting : a.querying? = some (target, some stage))
      (after : After turn w (Query.resume now id w.gateway.view stage).1 none
        ((Query.resume now id w.gateway.view stage).2.stage?.map fun stage => (target, some stage)))
  | aside (beside : Beside now w turn)

/-! ## Refreshes and queries -/

omit [Collaborators ω] in
theorem loopRefresh_after {owned : Bool} {ticks : Interval} {s : ChainView ω × RefreshProgress} :
    After (loopRefresh now id owned ticks w s) w s.1 s.2.stage? none := by
  unfold loopRefresh
  cases s.2 <;> exact ⟨rfl, rfl, rfl⟩

omit [Collaborators ω] in
theorem afterRefresh_after {s : ChainView ω × RefreshProgress} :
    After (afterRefresh now id w s) w s.1 s.2.stage? none := by
  unfold afterRefresh
  cases s.2 <;> exact ⟨rfl, rfl, rfl⟩

theorem runRefresh_acts {stage : Option RefreshStage} :
    Acts now id w (.refresh stage) (runRefresh now id stage w) := by
  cases stage with
  | none => exact .refresh afterRefresh_after
  | some stage => exact .refreshOn rfl afterRefresh_after

theorem runQuery_acts {target : QueryTarget} {stage : Option QueryStage} :
    Acts now id w (.query target stage) (runQuery now id target stage w) := by
  cases stage with
  | none =>
    refine .query rfl ?_
    unfold runQuery
    dsimp only
    generalize startQuery now id target w.gateway.view = s
    obtain ⟨v, progress⟩ := s
    cases progress <;> exact ⟨rfl, rfl, rfl⟩
  | some stage =>
    refine .queryOn rfl ?_
    unfold runQuery
    dsimp only
    generalize Query.resume now id w.gateway.view stage = s
    obtain ⟨v, progress⟩ := s
    cases progress <;> exact ⟨rfl, rfl, rfl⟩

/-! ## Heights -/

theorem noteHeight_asides {result : Except ChainError Nat} :
    Gateway.Asides now w.gateway (w.noteHeight result).gateway := by
  cases result with
  | ok height => exact .single ⟨.height height, rfl, rfl⟩
  | error e => exact .refl

theorem askHeight_asides (w : World ω) :
    Gateway.Asides now w.gateway (w.askHeight now).1.gateway :=
  .single ⟨.outside _, rfl, rfl⟩

theorem loopPoll_beside (w : World ω) {owned : Bool} {ticks : Interval}
    {answer : Pending (Except ChainError Nat)} {deadline : Nat} :
    Beside now w (loopPoll now id owned ticks (w, answer, deadline)) := by
  unfold loopPoll
  dsimp only
  cases heightResult? now answer deadline with
  | some result => exact ⟨noteHeight_asides, rfl, rfl⟩
  | none => exact ⟨.refl, rfl, rfl⟩

theorem runPoll_beside {waiting : Option (Pending (Except ChainError Nat) × Nat)} :
    Beside now w (runPoll now id waiting w) := by
  have hlater : ∀ (w : World ω) (waiting : Pending (Except ChainError Nat) × Nat),
      Beside now w (runPoll now id (some waiting) w) := by
    intro w waiting
    unfold runPoll
    dsimp only
    cases heightResult? now waiting.1 waiting.2 with
    | some result => exact ⟨noteHeight_asides, rfl, rfl⟩
    | none => exact ⟨.refl, rfl, rfl⟩
  cases waiting with
  | some waiting => exact hlater w waiting
  | none => exact (hlater (w.askHeight now).1 (w.askHeight now).2).after (askHeight_asides w)

/-! ## Background tasks -/

theorem takeTick_acts {a : Activity} {task : BackgroundTask} {owned : Bool} {ticks : Interval} :
    Acts now id w a (takeTick now id task owned ticks w) := by
  cases task with
  | refresh => exact .refresh loopRefresh_after
  | rollover => exact .aside ((loopPoll_beside (w.askHeight now).1).after (askHeight_asides w))
  | sanctionSweep => exact .aside ⟨.single ⟨.sweepSanctions, rfl, rfl⟩, rfl, rfl⟩
  | signatureSweep =>
    exact .aside ⟨Gateway.asides_relays
      ⟨w.gateway.limiter, w.gateway.signatures.sweep, w.gateway.outside, []⟩, rfl, rfl⟩

theorem runIdle_acts {a : Activity} {task : BackgroundTask} {owned : Bool} {ticks : Interval} :
    Acts now id w a (runIdle now id task owned ticks w) := by
  unfold runIdle
  split
  · exact .aside ⟨.refl, rfl, rfl⟩
  · split
    · exact takeTick_acts
    · exact .aside ⟨.refl, rfl, rfl⟩

theorem runLoop_acts {task : BackgroundTask} {owned : Bool} {stage : LoopStage} :
    Acts now id w (.loop task owned stage) (runLoop now id task owned stage w) := by
  cases stage with
  | starting => exact runIdle_acts
  | idle ticks => exact runIdle_acts
  | refreshing ticks stage => exact .refreshOn rfl loopRefresh_after
  | polling ticks answer deadline => exact .aside (loopPoll_beside w)

/-! ## Relays -/

theorem afterDispatch_beside {plan : DispatchPlan}
    {s : RequestContext × Relays ω × DispatchProgress} :
    Beside now w (afterDispatch now id plan w s) := by
  obtain ⟨c, r, progress⟩ := s
  unfold afterDispatch
  cases progress with
  | done result => exact ⟨Gateway.asides_relays r, rfl, rfl⟩
  | waiting d =>
    dsimp only
    split <;> exact ⟨Gateway.asides_relays _, rfl, rfl⟩

theorem runDispatch_beside {plan : DispatchPlan} {running : Option Dispatch} :
    Beside now w (runDispatch now id plan running w) := by
  unfold runDispatch
  split
  · exact ⟨.refl, rfl, rfl⟩
  · cases w.contexts.find? plan.context with
    | none => exact ⟨.refl, rfl, rfl⟩
    | some c => cases running <;> exact afterDispatch_beside

theorem awaitPermit_beside {timeout deadline : Nat} :
    Beside now w (awaitPermit now id timeout deadline w) := by
  unfold awaitPermit
  dsimp only
  split
  · exact ⟨Gateway.asides_relays _, rfl, rfl⟩
  · split <;> exact ⟨Gateway.asides_relays _, rfl, rfl⟩

theorem requestPermit_asides : Gateway.Asides now w.gateway (w.requestPermit id).gateway :=
  Gateway.asides_relays
    ⟨w.gateway.limiter.request id, w.gateway.signatures, w.gateway.outside, []⟩

theorem runAcquire_beside {timeout : Nat} {deadline : Option Nat} :
    Beside now w (runAcquire now id timeout deadline w) := by
  cases deadline with
  | some deadline => exact awaitPermit_beside
  | none => exact awaitPermit_beside.after requestPermit_asides

theorem holdOn_beside (w : World ω) {duration till : Nat} :
    Beside now w (holdOn now id duration till w) := by
  unfold holdOn
  split
  · exact ⟨Gateway.asides_relays _, rfl, rfl⟩
  · exact ⟨.refl, rfl, rfl⟩

theorem awaitHold_beside {duration : Nat} : Beside now w (awaitHold now id duration w) := by
  unfold awaitHold
  dsimp only
  split
  · exact (holdOn_beside (w.withRelays _)).after (Gateway.asides_relays _)
  · exact ⟨Gateway.asides_relays _, rfl, rfl⟩

theorem runHold_beside {duration : Nat} {stage : HoldStage} :
    Beside now w (runHold now id duration stage w) := by
  cases stage with
  | starting => exact awaitHold_beside.after requestPermit_asides
  | waiting => exact awaitHold_beside
  | holding till => exact holdOn_beside w

theorem withSignatures_asides {s : SignatureCache.Step} :
    Gateway.Asides now w.gateway (w.withSignatures s).gateway :=
  Gateway.asides_relays ⟨w.gateway.limiter, s.cache, w.gateway.outside, []⟩

theorem awaitComputation_beside (w : World ω) {plan : SignaturePlan} {woken : List ProcessId}
    {answer : Pending (Except SignerError SignedRelay)} :
    Beside now w (awaitComputation now id plan woken answer w) := by
  unfold awaitComputation
  cases answer.ready? now with
  | some result => exact ⟨withSignatures_asides, rfl, rfl⟩
  | none => exact ⟨.refl, rfl, rfl⟩

theorem afterSignatureStep_beside {plan : SignaturePlan} {s : SignatureCache.Step} :
    Beside now w (afterSignatureStep now id plan s w) := by
  unfold afterSignatureStep
  dsimp only
  cases s.progress with
  | done result => exact ⟨withSignatures_asides, rfl, rfl⟩
  | wait => exact ⟨withSignatures_asides, rfl, rfl⟩
  | compute =>
    exact (awaitComputation_beside
      { w.withSignatures s with computations := w.computations + 1 }).after withSignatures_asides

theorem runSignature_beside {plan : SignaturePlan} {stage : SignatureStage} :
    Beside now w (runSignature now id plan stage w) := by
  cases stage with
  | starting => exact afterSignatureStep_beside
  | sharing => exact afterSignatureStep_beside
  | computing answer => exact awaitComputation_beside w

/-! ## Shutdown -/

theorem join_beside {ids : List ProcessId} {again : List ProcessId → Activity}
    {woken : List ProcessId} (w w' : World ω) (same : w'.gateway = w.gateway)
    (h : ∀ ids, (again ids).refreshing? = none ∧ (again ids).querying? = none) :
    Beside now w (join now id ids again woken w') := by
  have hasides : Gateway.Asides now w.gateway w'.gateway := same ▸ .refl
  unfold join
  split
  · exact ⟨hasides, rfl, rfl⟩
  · exact ⟨hasides, (h ids).1, (h ids).2⟩

theorem startShutdown_beside {again : List ProcessId → Activity}
    (h : ∀ ids, (again ids).refreshing? = none ∧ (again ids).querying? = none) :
    Beside now w (startShutdown now id again w) := by
  unfold startShutdown
  dsimp only
  split <;> exact join_beside w _ rfl h

theorem runShutdown_beside {joining : Option (List ProcessId)} :
    Beside now w (runShutdown now id joining w) := by
  unfold runShutdown
  cases joining with
  | none => exact startShutdown_beside fun _ => ⟨rfl, rfl⟩
  | some ids => exact join_beside w w rfl fun _ => ⟨rfl, rfl⟩

theorem runWaitForShutdown_beside {subscribed : Bool} {joining : Option (List ProcessId)} :
    Beside now w (runWaitForShutdown now id subscribed joining w) := by
  unfold runWaitForShutdown
  cases joining with
  | some ids => exact join_beside w w rfl fun _ => ⟨rfl, rfl⟩
  | none =>
    dsimp only
    split
    · split
      · exact startShutdown_beside fun _ => ⟨rfl, rfl⟩
      · exact ⟨.refl, rfl, rfl⟩
    · exact ⟨.refl, rfl, rfl⟩

theorem runListen_beside : Beside now w (runListen now id w) := by
  unfold runListen
  split <;> exact ⟨.refl, rfl, rfl⟩

/-! ## Turns -/

/-- Every turn of an activity is of one of the kinds. -/
theorem run_acts (now : Nat) (id : ProcessId) (a : Activity) (w : World ω) :
    Acts now id w a (run now id a w) := by
  cases a with
  | refresh stage => exact runRefresh_acts
  | query target stage => exact runQuery_acts
  | poll waiting => exact .aside runPoll_beside
  | dispatch plan running => exact .aside runDispatch_beside
  | acquire timeout deadline => exact .aside runAcquire_beside
  | hold duration stage => exact .aside runHold_beside
  | signature plan stage => exact .aside runSignature_beside
  | loop task owned stage => exact runLoop_acts
  | listen => exact .aside runListen_beside
  | shutdown joining => exact .aside runShutdown_beside
  | waitForShutdown subscribed joining => exact .aside runWaitForShutdown_beside

/-- A turn of an activity makes changes, one after the other. -/
theorem run_changes (now : Nat) (id : ProcessId) (a : Activity) (w : World ω) :
    Gateway.Changes now w.gateway (run now id a w).shared.gateway := by
  cases run_acts now id a w with
  | refresh after => exact after.gateway ▸ .single .refresh
  | refreshOn waiting after => exact after.gateway ▸ .single (.refreshOn _)
  | query asks after => exact after.gateway ▸ .single (.query id _)
  | queryOn waiting after => exact after.gateway ▸ .single (.queryOn id _)
  | aside beside => exact Gateway.changes_of_asides beside.asides

end World
end RelayGateway
