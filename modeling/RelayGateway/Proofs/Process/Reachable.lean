import RelayGateway.Process.Operation
import RelayGateway.Proofs.Process.Turns
import RelayGateway.Proofs.Schedule

/-! # Reachable states of a gateway

A gateway in operation takes steps: turns of its activities, moves of the clock and of the queue,
changes beside the cache. What no change to the gateway breaks holds in every reachable state.
-/
namespace RelayGateway
open Relation

variable {ω : Type} [Collaborators ω]

/-! ## Changes beside the cache -/

namespace Gateway
variable {now : Nat} {g : Gateway ω}

theorem buildContext_aside (service : ServiceId) (m : RequestMetadata) :
    Aside now g (g.buildContext now service m).1 := by
  have hafter : (g.afterOffer now service m).cache = g.cache ∧
      (g.afterOffer now service m).fallbacks = g.fallbacks := by
    unfold afterOffer
    dsimp only
    split <;> exact ⟨rfl, rfl⟩
  have hbuilt : (g.buildContext now service m).1.cache = (g.afterOffer now service m).cache ∧
      (g.buildContext now service m).1.fallbacks = (g.afterOffer now service m).fallbacks := by
    unfold buildContext
    split <;> exact ⟨rfl, rfl⟩
  exact ⟨.build service m, hbuilt.1.trans hafter.1, hbuilt.2.trans hafter.2⟩

end Gateway

structure Activity.Fresh (a : Activity) : Prop where
  refreshing : a.refreshing? = none
  querying : ∀ target stage, a.querying? ≠ some (target, some stage)

namespace Operation
variable {o o' : Operation ω} {config : GatewayConfig}

/-! ## Steps -/

/-- One step of a gateway in operation: activities start fresh, and the cache changes in their turns
only. -/
inductive Step (o : Operation ω) : Operation ω → Prop where
  | turn : Step o (Schedule.step World.run o)
  | ring (t : Nat) (later : o.now ≤ t) : Step o (Schedule.ring o t)
  | wait (t : Nat) : Step o { o with now := max o.now t }
  | wake (ids : List ProcessId) : Step o (Schedule.wake o ids)
  | spawn (a : Activity) (fresh : a.Fresh) : Step o (Schedule.spawn o a).1
  | remove (id : ProcessId) : Step o (Schedule.remove o id)
  | aside {g : Gateway ω} (aside : Gateway.Aside o.now o.gateway g) :
      Step o (o.modifyGateway fun _ => g)
  | surround {w : World ω} (same : w.gateway = o.gateway) : Step o (o.modify fun _ => w)

abbrev Steps : Operation ω → Operation ω → Prop := ReflTransGen Step

theorem steps_modify {f : World ω → World ω} (same : (f o.shared).gateway = o.gateway) :
    Steps o (o.modify f) :=
  .single (.surround same)

theorem steps_modifyGateway {f : Gateway ω → Gateway ω}
    (aside : Gateway.Aside o.now o.gateway (f o.gateway)) : Steps o (o.modifyGateway f) :=
  .single (.aside aside)

/-! ### The operations are made of steps -/

theorem steps_keeps (o : Operation ω) : Schedule.Keeps World.run (Steps o) where
  step _ h := h.tail .turn
  ring _ t later h := h.tail (.ring t later)
  wait _ t h := h.tail (.wait t)

theorem steps_settled (o : Operation ω) : Steps o o.settled := (steps_keeps o).settle _ .refl

theorem steps_sleep (o : Operation ω) (ms : Nat) : Steps o (o.sleep ms) :=
  ((steps_keeps o).runUntil _ _ .refl).trans (steps_settled _)

theorem steps_await (o : Operation ω) (ids : List ProcessId) :
    Steps o (Schedule.await World.run ids fuel o) :=
  (steps_keeps o).await ids _ .refl

theorem steps_launch (o : Operation ω) {a : Activity} (fresh : a.Fresh) : Steps o (o.launch a).1 :=
  .head (.spawn a fresh) (steps_settled _)

theorem steps_perform (o : Operation ω) {a : Activity} (fresh : a.Fresh) :
    Steps o (o.perform a).1 :=
  .head (.spawn a fresh) ((steps_await _ _).trans (steps_settled _))

theorem steps_performAll (o : Operation ω) {activities : List Activity}
    (fresh : ∀ a ∈ activities, a.Fresh) : Steps o (o.performAll activities).1 := by
  refine .trans ?_ ((steps_await _ _).trans (steps_settled _))
  exact List.foldlRecOn (motive := fun s : Operation ω × List ProcessId => Steps o s.1)
    activities _ .refl
    fun s hs a ha => hs.tail (.spawn a (fresh a ha))

theorem steps_abort (o : Operation ω) (id : ProcessId) : Steps o (o.abort id) := by
  unfold Operation.abort
  cases Schedule.process? o id with
  | none => exact .refl
  | some a =>
    have hgateway : Steps o (o.modifyGateway fun _ => (o.shared.dropActivity id a).1.gateway) :=
      steps_modifyGateway ⟨.relays _, rfl, rfl⟩
    have hdropped : Steps o { o with shared := (o.shared.dropActivity id a).1 } :=
      hgateway.trans (steps_modify (f := fun _ => (o.shared.dropActivity id a).1) rfl)
    exact ((hdropped.tail (.remove id)).tail (.wake _)).trans (steps_settled _)

theorem steps_releasePermit (o : Operation ω) (id : ProcessId) : Steps o (o.releasePermit id) := by
  have hreleased : Steps o (o.modifyGateway fun g => g.withRelays (o.gateway.relays.release id)) :=
    steps_modifyGateway ⟨.relays _, rfl, rfl⟩
  exact (hreleased.tail (.wake _)).trans (steps_settled _)

theorem steps_startTask (owned : Bool) (o : Operation ω) (task : BackgroundTask) :
    Steps o (startTask owned o task).1 := by
  have hspawned : Steps o (Schedule.spawn o (.loop task owned .starting)).1 :=
    .single (.spawn _ ⟨rfl, nofun⟩)
  unfold Operation.startTask
  generalize Schedule.spawn o (.loop task owned .starting) = s at hspawned ⊢
  obtain ⟨o', id⟩ := s
  dsimp only at hspawned ⊢
  refine hspawned.trans (steps_modify ?_)
  split <;> rfl

theorem steps_startAlone (o : Operation ω) (task : BackgroundTask) :
    Steps o (o.startAlone task).1 := by
  unfold Operation.startAlone
  dsimp only
  split
  · exact .refl
  · exact (steps_startTask false o task).trans (steps_settled _)

theorem steps_startRuntime (o : Operation ω) : Steps o o.startRuntime.1 := by
  unfold Operation.startRuntime
  dsimp only
  generalize o.world.lifecycle.startable o.gateway.signatures.config.enabled = tasks
  induction tasks generalizing o with
  | nil => exact .refl
  | cons task rest ih => exact (steps_startTask true o task).trans (ih _)

theorem steps_stopAlone (o : Operation ω) : Steps o o.stopAlone.1 := by
  have htold : Steps o (o.modify fun w => { w with stopping := w.stopping.send }) :=
    steps_modify rfl
  exact (htold.tail (.wake _)).trans (steps_settled _)

theorem steps_signal (o : Operation ω) : Steps o o.signal.1 := by
  have htold : Steps o (o.modify fun w =>
      { w with lifecycle := { w.lifecycle with channel := w.lifecycle.channel.send } }) :=
    steps_modify rfl
  exact (htold.tail (.wake _)).trans (steps_settled _)

theorem steps_listen (o : Operation ω) : Steps o o.listen.1 := by
  have hspawned : Steps o (Schedule.spawn o .listen).1 := .single (.spawn _ ⟨rfl, nofun⟩)
  unfold Operation.listen
  dsimp only
  refine (hspawned.trans (steps_modify ?_)).trans (steps_settled _)
  rfl

theorem steps_build (o : Operation ω) (name : String) (service : ServiceId) (m : RequestMetadata) :
    Steps o (o.build name service m).1 := by
  have hbuilt : Steps o (o.modifyGateway fun g => (g.buildContext o.now service m).1) :=
    steps_modifyGateway (Gateway.buildContext_aside service m)
  unfold Operation.build
  dsimp only
  cases hresult : (o.gateway.buildContext o.now service m).2 with
  | ok c =>
    refine hbuilt.tail (.surround (w := { o.shared with
      gateway := (o.gateway.buildContext o.now service m).1
      contexts := o.shared.contexts.insert name c }) ?_)
    rfl
  | error e => exact hbuilt

theorem steps_newContext (o : Operation ω) (name : String) (service : ServiceId)
    (offer : Gateway.Offer) : Steps o (o.newContext name service offer) := by
  have hmade : Steps o (o.modifyGateway fun g => (g.newContext service offer).1) :=
    steps_modifyGateway ⟨.context service offer, rfl, rfl⟩
  refine hmade.tail (.surround (w := { o.shared with
    gateway := (o.gateway.newContext service offer).1
    contexts := o.shared.contexts.insert name (o.gateway.newContext service offer).2 }) ?_)
  rfl

theorem steps_select (o : Operation ω) (name : String) (c : RequestContext) (s : Selector) :
    Steps o (o.select name c s).1 := by
  unfold Operation.select
  dsimp only
  refine steps_modify ?_
  rfl

theorem steps_applyObservations (o : Operation ω) (observations : RequestObservations) :
    Steps o (o.applyObservations observations) :=
  steps_modifyGateway ⟨.observe observations, rfl, rfl⟩

/-! ## Reachable states -/

inductive Move (o : Operation ω) : Operation ω → Prop where
  | turn : Move o (Schedule.step World.run o)
  | ring (t : Nat) (later : o.now ≤ t) : Move o (Schedule.ring o t)
  | wait (t : Nat) : Move o { o with now := max o.now t }
  | wake (ids : List ProcessId) : Move o (Schedule.wake o ids)
  | spawn (a : Activity) : Move o (Schedule.spawn o a).1
  | remove (id : ProcessId) : Move o (Schedule.remove o id)
  | change {g : Gateway ω} (change : Gateway.Change o.now o.gateway g) :
      Move o (o.modifyGateway fun _ => g)
  | surround {w : World ω} (same : w.gateway = o.gateway) : Move o (o.modify fun _ => w)

def Reachable (config : GatewayConfig) (o : Operation ω) : Prop :=
  ∃ outside : ω, ReflTransGen Move (begin config outside) o

theorem Reachable.begin (config : GatewayConfig) (outside : ω) :
    Reachable config (begin config outside) :=
  ⟨outside, .refl⟩

theorem Reachable.move (h : Reachable config o) (move : Move o o') : Reachable config o' := by
  obtain ⟨outside, hmoves⟩ := h
  exact ⟨outside, hmoves.tail move⟩

theorem Step.move (step : Step o o') : Move o o' := by
  cases step with
  | turn => exact .turn
  | ring t later => exact .ring t later
  | wait t => exact .wait t
  | wake ids => exact .wake ids
  | spawn a fresh => exact .spawn a
  | remove id => exact .remove id
  | aside aside => exact .change aside.change
  | surround same => exact .surround same

theorem Reachable.steps (h : Reachable config o) (steps : Steps o o') : Reachable config o' := by
  induction steps with
  | refl => exact h
  | tail _ step ih => exact ih.move step.move

theorem Reachable.perform (h : Reachable config o) (a : Activity) :
    Reachable config (o.perform a).1 :=
  (h.move (.spawn a)).steps ((steps_await _ _).trans (steps_settled _))

/-! ## Invariants -/

/-- A move of the operation makes changes to the gateway, if it does anything to it. -/
theorem Move.changes (move : Move o o') : Gateway.Changes o.now o.gateway o'.gateway := by
  cases move with
  | turn =>
    unfold Operation.gateway
    rcases Schedule.step_takes World.run o with ⟨queue, h⟩ | ⟨id, a, -, h⟩
    · rw [h]
    · rw [h.shared]
      exact World.run_changes o.now id a o.shared
  | ring t later => exact .refl
  | wait t => exact .refl
  | wake ids => exact .refl
  | spawn a => exact .refl
  | remove id => exact .refl
  | change change => exact .single change
  | surround same => exact same ▸ .refl

/-- What holds of a new gateway and survives every change holds whenever the gateway is in
operation. -/
theorem Reachable.invariant (h : Reachable config o) {p : Gateway ω → Prop}
    (new : ∀ outside, p (Gateway.new config outside))
    (change : ∀ now g g', Gateway.Change now g g' → p g → p g') : p o.gateway := by
  obtain ⟨outside, hmoves⟩ := h
  induction hmoves with
  | refl => exact new outside
  | @tail o o' _ move ih =>
    have hchanges := move.changes
    generalize o'.gateway = g at hchanges ⊢
    induction hchanges with
    | refl => exact ih
    | tail _ hchange ih => exact change _ _ _ hchange ih

/-- The fallbacks are those of the configuration. -/
theorem Reachable.fallbacks_eq (h : Reachable config o) :
    o.gateway.fallbacks = Gateway.fallbackSets config.protocol := by
  refine h.invariant (p := fun g => g.fallbacks = Gateway.fallbackSets config.protocol)
    (fun _ => rfl) ?_
  intro now g g' hchange hg
  rw [← hg]
  cases hchange with
  | build service m => exact (Gateway.buildContext_aside service m).fallbacks
  | _ => rfl

end Operation
end RelayGateway
