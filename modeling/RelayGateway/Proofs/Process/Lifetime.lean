import RelayGateway.Process.Assembly
import RelayGateway.Proofs.Process.Reachable
import RelayGateway.Proofs.Process.Starts
import RelayGateway.Script

/-! # From the first start to the end of the shutdown

In the life of a runtime each loop is started once at most, and every handle is counted by a start. The
first shutdown closes the runtime for good: nothing is started or owned after it, it returns when all owned
tasks have ended, and other shutdowns do nothing.
-/
namespace RelayGateway
open Relation

variable {ω : Type}

namespace World
variable {w : World ω} {now : Nat} {id : ProcessId}

/-- A shutdown after the first ends at once, and nobody hears of it. -/
theorem startShutdown_late {again : List ProcessId → Activity} (shut : w.lifecycle.shutdown = true)
    (alone : id ∉ w.lifecycle.joining) :
    startShutdown now id again w = { w with lifecycle := { w.lifecycle with
      channel := w.lifecycle.channel.unsubscribe id } }.finish now id .ended [] := by
  have hjoining : w.lifecycle.joining.filter (· ≠ id) = w.lifecycle.joining :=
    List.filter_eq_self.2 fun i hi => decide_eq_true (ne_of_mem_of_not_mem hi alone)
  unfold startShutdown join
  dsimp only
  rw [if_pos shut, if_pos (show w.lifecycle.allEnded [] = true from rfl), hjoining]

end World

namespace Tenure
variable [Collaborators ω] {config : GatewayConfig} {x y : Tenure ω} {o : Operation ω}

omit [Collaborators ω] in
theorem Sound.seen_calm (h : x.Sound config) (calm : Calm x.operation o) :
    x.seen o = { x with operation := o } :=
  seen_eq (h.roster.calm calm).loops_sub (h.custody.calm calm).owned_sub

omit [Collaborators ω] in
theorem Sound.startRuntime_eq (h : x.Sound config) (closed : x.first ≠ none) :
    x.operation.startRuntime = (x.operation, 0) := by
  have hshut : x.operation.world.lifecycle.shutdown = true :=
    h.custody.shutdown.trans (Option.isSome_iff_ne_none.2 closed)
  unfold Operation.startRuntime
  rw [Lifecycle.startable_of_shutdown hshut]
  rfl

/-- From `x` to `y` the runtime has got no handle, and its starts have returned nothing. -/
structure Idles (x y : Tenure ω) : Prop where
  first : y.first = x.first
  handles : y.handles = x.handles
  returned : ∃ n, y.returned = x.returned ++ List.replicate n 0

omit [Collaborators ω] in
theorem Idles.of_eq (first : y.first = x.first) (handles : y.handles = x.handles)
    (returned : y.returned = x.returned) : Idles x y :=
  ⟨first, handles, 0, returned.trans (List.append_nil _).symm⟩

omit [Collaborators ω] in
theorem Idles.trans {z : Tenure ω} (h : Idles x y) (h' : Idles y z) : Idles x z := by
  obtain ⟨n, hn⟩ := h.returned
  obtain ⟨n', hn'⟩ := h'.returned
  refine ⟨h'.first.trans h.first, h'.handles.trans h.handles, n + n', ?_⟩
  rw [hn', hn, List.append_assoc, List.replicate_append_replicate]

omit [Collaborators ω] in
theorem Sound.idles_calm (h : x.Sound config) (calm : Calm x.operation o) : Idles x (x.seen o) := by
  rw [h.seen_calm calm]
  exact .of_eq rfl rfl rfl

omit [Collaborators ω] in
theorem Sound.idles_took (h : x.Sound config) (closed : x.first ≠ none) {id : ProcessId} {a : Activity}
    {turn : World.WorldTurn ω} (taken : x.Taken id a turn o) : Idles x (x.took id o) := by
  obtain ⟨first, hfirst⟩ := Option.ne_none_iff_exists'.1 closed
  rw [took_eq h.roster h.custody taken, hfirst]
  exact .of_eq hfirst.symm rfl rfl

/-- Once the runtime is shut down, no step brings it anything. -/
theorem Sound.idles_step (h : x.Sound config) (closed : x.first ≠ none) (step : Step x y) :
    Idles x y := by
  cases step with
  | turn found =>
    exact h.idles_took closed (h.taken found (World.run_lived _ _ (h.roster.fits _ _ found) _))
  | tick found rests due => exact h.idles_took closed (h.taken found World.takeTick_lived)
  | start =>
    unfold Tenure.start
    rw [h.startRuntime_eq closed, seen_eq h.roster.loops_sub h.custody.owned_sub]
    exact ⟨rfl, rfl, 1, rfl⟩
  | startDirect onChannel task =>
    rcases Starts.startDirect onChannel x.operation task with hsame | ⟨-, -, hstarts⟩
    · rw [hsame, seen_eq h.roster.loops_sub h.custody.owned_sub]
      exact .of_eq rfl rfl rfl
    · rw [seen_starts h.roster h.custody hstarts nofun]
      exact .of_eq rfl (List.append_nil _) rfl
  | call a made => exact h.idles_calm (calm_spawn h.roster made)
  | listen => exact h.idles_calm (calm_listen h.roster)
  | drop found free => exact h.idles_calm (calm_drop h.roster _ _)
  | around around => exact h.idles_calm (calm_around h.roster around)
  | schedule now later queue => exact h.idles_calm (calm_schedule h.roster now queue)

theorem Sound.idles (h : x.Sound config) (closed : x.first ≠ none) (steps : Steps x y) : Idles x y := by
  induction steps with
  | refl => exact .of_eq rfl rfl rfl
  | @tail y z steps step ih =>
    exact ih.trans ((h.steps steps).idles_step (ih.first ▸ closed) step)

omit [Collaborators ω] in
/-- A handle whose task is not running belongs to a process that is gone. -/
theorem Sound.hasEnded (h : x.Sound config) {handle : ProcessId} (owned : handle ∈ x.handles)
    (idle : handle ∉ x.lifecycle.running) : x.operation.hasEnded handle = true := by
  have hgone : Schedule.process? x.operation handle = none := by
    cases hprocess : Schedule.process? x.operation handle with
    | none => rfl
    | some a =>
      obtain ⟨task, hknown⟩ := h.custody.handled handle owned
      have htask := (h.roster.task handle a hprocess task).2 hknown
      exact absurd (h.roster.running handle a hprocess (htask ▸ Option.some_ne_none task)) idle
  unfold Operation.hasEnded
  rw [Schedule.isRunning_eq_false hgone]
  rfl

/-- What is true of a runtime at any time of its life. -/
structure Lifelong (config : GatewayConfig) (x : Tenure ω) : Prop where
  /-- Each loop was started once at most, and all loops that are there are among those. -/
  once : (x.loops.map Prod.fst).Nodup ∧ ∀ e ∈ x.operation.loops, e ∈ x.loops
  disabled : config.signatureCache.enabled = false → .signatureSweep ∉ x.loops.map Prod.fst
  counted : x.returned.sum = x.handles.length
  /-- Each handle is that of one loop. -/
  handles : x.handles.Nodup ∧ ∀ id ∈ x.handles, ∃ task, (task, id) ∈ x.loops
  shutdown : x.lifecycle.shutdown = true ↔ x.first ≠ none
  owned : x.lifecycle.owned = if x.lifecycle.shutdown then [] else x.handles
  /-- From the first shutdown on, a start does nothing and returns nothing, and the handles stay. -/
  closed : x.first ≠ none → x.operation.startRuntime = (x.operation, 0) ∧ ∀ y, Steps x y → Idles x y
  /-- When the first shutdown has returned, the runtime owns nothing, and what it owned has ended. -/
  joined : ∀ id, x.first = some id → x.operation.outcome? id ≠ none →
    x.lifecycle.owned = [] ∧ ∀ handle ∈ x.handles, x.operation.hasEnded handle = true
  /-- Every later shutdown returns in its first turn and changes nothing. -/
  late : x.first ≠ none → ∀ id, Schedule.process? x.operation id = some (.shutdown none) → ∀ now,
    World.run now id (.shutdown none) x.operation.shared =
      x.operation.shared.finish now id .ended []
  /-- So does one that has waited for a message first; it gives up its subscription. -/
  awaited : x.first ≠ none → ∀ id,
    Schedule.process? x.operation id = some (.waitForShutdown true none) →
      x.lifecycle.channel.hasMessage id = true → ∀ now,
        World.run now id (.waitForShutdown true none) x.operation.shared =
          { x.operation.shared with lifecycle := { x.lifecycle with
            channel := x.lifecycle.channel.unsubscribe id } }.finish now id .ended []

/-- In whatever order starts, shutdowns and the tasks take their turns, the runtime keeps to its life. -/
theorem Reached.lifelong (h : Reached config x) : x.Lifelong config := by
  have hsound := h.sound
  have hclosed : x.first ≠ none → x.lifecycle.shutdown = true := fun closed =>
    hsound.custody.shutdown.trans (Option.isSome_iff_ne_none.2 closed)
  constructor
  · exact ⟨hsound.roster.started ▸ List.nodup_reverse.2 hsound.roster.once, hsound.roster.loops_sub⟩
  · intro hdisabled hsweep
    rw [hsound.roster.started, List.mem_reverse] at hsweep
    exact absurd (hsound.roster.enabled hsweep) (Bool.eq_false_iff.1 hdisabled)
  · exact hsound.counted
  · exact ⟨hsound.custody.nodup, hsound.custody.handled⟩
  · rw [hsound.custody.shutdown]
    exact Option.isSome_iff_ne_none
  · rw [hsound.custody.owned, hsound.custody.shutdown]
  · exact fun closed => ⟨hsound.startRuntime_eq closed, fun _ steps => hsound.idles closed steps⟩
  · intro id hfirst hout
    have howned := hsound.custody.owned
    rw [hfirst] at howned
    exact ⟨howned, fun handle hhandle =>
      hsound.hasEnded hhandle (hsound.custody.joined id hfirst hout handle hhandle)⟩
  · intro closed id hid now
    have hlacks : x.operation.world.lifecycle.channel.Lacks id := hsound.custody.lacks id hid
    refine (World.startShutdown_late (hclosed closed) (hsound.custody.alone id _ hid rfl)).trans ?_
    rw [Channel.unsubscribe_of_lacks hlacks]
    rfl
  · intro closed id hid hmessage now
    have hrun : World.run now id (.waitForShutdown true none) x.operation.shared =
        World.startShutdown now id (fun ids => .waitForShutdown true (some ids)) x.operation.shared :=
      if_pos hmessage
    exact hrun.trans
      (World.startShutdown_late (hclosed closed) (hsound.custody.alone id _ hid rfl))

section Example

def turn (x : Tenure Script) (id : ProcessId) : Tenure Script :=
  match Schedule.process? x.operation id with
  | some a => x.took id (Schedule.afterTurn x.operation id
      (World.run x.operation.now id a x.operation.shared))
  | none => x

theorem steps_turn (x : Tenure Script) (id : ProcessId) : Steps x (turn x id) := by
  unfold turn
  split
  · exact .single (.turn ‹_›)
  · exact .refl

theorem steps_turns (x : Tenure Script) (ids : List ProcessId) : Steps x (ids.foldl turn x) :=
  List.foldlRecOn (motive := Steps x) ids turn .refl fun y steps id _ => steps.trans (steps_turn y id)

def called : Tenure Script :=
  let started := (begin default default).start
  started.seen (Schedule.spawn started.operation (.shutdown none)).1

theorem steps_called : Steps (begin default default) called :=
  (ReflTransGen.single .start).tail (.call (.shutdown none) ⟨rfl, rfl⟩)

def shutDown : Tenure Script := [4, 0, 1, 2, 3, 4].foldl turn called

theorem reached_shutDown : Reached default shutDown :=
  ⟨default, steps_called.trans (steps_turns called [4, 0, 1, 2, 3, 4])⟩

/-- The start has returned four, and none of the four tasks is left when the shutdown returns. -/
theorem lifelong_shut_down : Reached default shutDown ∧ shutDown.returned = [4] ∧
    shutDown.handles = [0, 1, 2, 3] ∧ shutDown.first = some 4 ∧
    (shutDown.operation.outcome? 4).isSome = true ∧ shutDown.lifecycle.owned = [] ∧
    ∀ handle ∈ shutDown.handles, shutDown.operation.hasEnded handle = true := by
  have hfirst : shutDown.first = some 4 := by decide +kernel
  have hreturned : (shutDown.operation.outcome? 4).isSome = true := by decide +kernel
  have hover := reached_shutDown.lifelong.joined 4 hfirst (Option.isSome_iff_ne_none.1 hreturned)
  exact ⟨reached_shutDown, by decide +kernel, by decide +kernel, hfirst, hreturned, hover⟩

end Example

/-! ## The operations are made of steps -/

def Leads (x : Tenure ω) (o : Operation ω) : Prop := ∃ y, Steps x y ∧ y.operation = o

namespace Leads

theorem refl (x : Tenure ω) : Leads x x.operation := ⟨x, .refl, rfl⟩

theorem schedule (h : Leads x o) (now : Nat) (later : o.now ≤ now) (queue : List ProcessId) :
    Leads x { o with now, queue } := by
  obtain ⟨y, steps, rfl⟩ := h
  exact ⟨_, steps.tail (.schedule now later queue), rfl⟩

theorem wake (h : Leads x o) (ids : List ProcessId) : Leads x (Schedule.wake o ids) :=
  h.schedule _ (Nat.le_refl _) _

theorem ring (h : Leads x o) {t : Nat} (later : o.now ≤ t) : Leads x (Schedule.ring o t) :=
  h.schedule t later _

theorem turn (h : Leads x o) {id : ProcessId} {a : Activity}
    (found : Schedule.process? o id = some a) :
    Leads x (Schedule.afterTurn o id (World.run o.now id a o.shared)) := by
  obtain ⟨y, steps, rfl⟩ := h
  exact ⟨_, steps.tail (.turn found), rfl⟩

theorem step (h : Leads x o) : Leads x (Schedule.step World.run o) := by
  unfold Schedule.step
  cases hqueue : o.queue with
  | nil => exact h
  | cons id queue =>
    have hdequeued := h.schedule o.now (Nat.le_refl _) queue
    dsimp only
    cases hw : o.processes.lookup id with
    | none => exact hdequeued
    | some w => exact hdequeued.turn (congrArg (Option.map Waiting.process) hw)

theorem keeps (x : Tenure ω) : Schedule.Keeps World.run (Leads x) where
  step _ h := h.step
  ring _ _ later h := h.ring later
  wait _ _ h := h.schedule _ (Nat.le_max_left _ _) _

theorem settled (h : Leads x o) : Leads x o.settled := (keeps x).settle _ h

theorem await (h : Leads x o) (ids : List ProcessId) :
    Leads x (Schedule.await World.run ids Operation.fuel o) :=
  (keeps x).await ids _ h

theorem sleep (h : Leads x o) (ms : Nat) : Leads x (o.sleep ms) :=
  settled ((keeps x).runUntil _ _ h)

theorem call (h : Leads x o) {a : Activity} (made : a.Made) : Leads x (Schedule.spawn o a).1 := by
  obtain ⟨y, steps, rfl⟩ := h
  exact ⟨_, steps.tail (.call a made), rfl⟩

theorem launch (h : Leads x o) {a : Activity} (made : a.Made) : Leads x (o.launch a).1 :=
  (h.call made).settled

theorem perform (h : Leads x o) {a : Activity} (made : a.Made) : Leads x (o.perform a).1 :=
  ((h.call made).await _).settled

theorem performAll (h : Leads x o) {activities : List Activity} (made : ∀ a ∈ activities, a.Made) :
    Leads x (o.performAll activities).1 := by
  refine settled (await ?_ _)
  exact List.foldlRecOn (motive := fun s : Operation ω × List ProcessId => Leads x s.1)
    activities _ h fun s hs a ha => hs.call (made a ha)

theorem startRuntime (h : Leads x o) : Leads x o.startRuntime.1 := by
  obtain ⟨y, steps, rfl⟩ := h
  exact ⟨_, steps.tail .start, rfl⟩

theorem startDirect (h : Leads x o) (onChannel : Bool) (task : BackgroundTask) :
    Leads x (o.startDirect onChannel task) := by
  obtain ⟨y, steps, rfl⟩ := h
  exact ⟨_, steps.tail (.startDirect onChannel task), rfl⟩

theorem startAlone (h : Leads x o) (task : BackgroundTask) : Leads x (o.startAlone task).1 := by
  have hdirect := h.startDirect false task
  unfold Operation.startDirect at hdirect
  unfold Operation.startAlone
  dsimp only at hdirect ⊢
  split
  · exact h
  · rw [if_neg ‹_›] at hdirect
    exact settled hdirect

theorem around (h : Leads x o) {w : World ω} (around : o.shared.Around w) :
    Leads x (o.modify fun _ => w) := by
  obtain ⟨y, steps, rfl⟩ := h
  exact ⟨_, steps.tail (.around around), rfl⟩

theorem stopAlone (h : Leads x o) : Leads x o.stopAlone.1 := by
  have htold : Leads x (o.modify fun w => { w with stopping := w.stopping.send }) :=
    h.around ⟨rfl, rfl, o.shared.lifecycle.channel, rfl, fun _ hid => hid⟩
  exact (htold.wake _).settled

theorem signal (h : Leads x o) : Leads x o.signal.1 := by
  have htold : Leads x (o.modify fun w =>
      { w with lifecycle := { w.lifecycle with channel := w.lifecycle.channel.send } }) :=
    h.around ⟨rfl, rfl, o.shared.lifecycle.channel.send, rfl, fun _ hid => hid.send⟩
  exact (htold.wake _).settled

theorem listen (h : Leads x o) : Leads x o.listen.1 := by
  obtain ⟨y, steps, rfl⟩ := h
  exact settled ⟨_, steps.tail .listen, rfl⟩

end Leads

/-- An activity may be aborted unless the runtime owns it. -/
theorem leads_abort {id : ProcessId} (free : id ∉ x.handles) : Leads x (x.operation.abort id) := by
  unfold Operation.abort
  cases hprocess : Schedule.process? x.operation id with
  | none => exact .refl x
  | some a =>
    have hdropped : Leads x _ := ⟨_, .single (.drop hprocess free), rfl⟩
    exact (hdropped.wake _).settled

/-- A runtime that has been assembled is at the beginning of its life. -/
theorem reached_assembled {p : RuntimeParts} {outside : ω} (h : p.assemble outside = .ok o) :
    ∃ config x, p.config? = .ok config ∧ Reached config x ∧ x.operation = o := by
  unfold RuntimeParts.assemble at h
  split at h
  · cases h
  · next config hconfig =>
    split at h
    · cases h
    · refine ⟨config, if p.background then (begin config outside).start else begin config outside,
        hconfig, ⟨outside, ?_⟩, ?_⟩
      · split
        · exact .single .start
        · exact .refl
      · rw [← Except.ok.inj h]
        split <;> rfl

end Tenure
end RelayGateway
