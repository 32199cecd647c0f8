import RelayGateway.Proofs.Process.Tenure
import RelayGateway.Script

/-! # Announcements of the shutdown

A shutdown that is initiated and a signal from outside are announced to everyone who is subscribed to the
channel of the runtime at that moment. Tasks, calls and announcements come in any order here, but the queue
is kept: a process leaves it only to take its turn, so when the queue is empty nobody can go on. Then no
call is left waiting that was waiting for a message when one was sent. A call that subscribes later has
missed it.
-/
namespace RelayGateway
open Relation

variable {ω : Type}

namespace Schedule
variable {σ τ : Type} {s : Schedule σ τ} {id i : ProcessId}

theorem mem_queue_wake (s : Schedule σ τ) (ids : List ProcessId) :
    i ∈ (s.wake ids).queue ↔ i ∈ s.queue ∨ i ∈ ids := by
  unfold wake
  generalize s.queue = q
  dsimp only
  induction ids generalizing q with
  | nil => simp
  | cons k rest ih =>
    rw [List.foldl_cons, ih]
    by_cases hq : q.contains k = true
    · rw [if_pos hq]
      have hk : k ∈ q := List.contains_iff_mem.1 hq
      simp only [List.mem_cons]
      constructor
      · exact fun h => h.imp_right .inr
      · rintro (h | rfl | h)
        · exact .inl h
        · exact .inl hk
        · exact .inr h
    · rw [if_neg hq]
      simp only [List.mem_append, List.mem_cons, List.not_mem_nil, or_false]
      exact or_assoc

/-- A turn takes nobody else out of the queue. -/
theorem mem_queue_afterTurn {turn : Turn σ τ} (other : i ≠ id) :
    i ∈ (s.afterTurn id turn).queue ↔ i ∈ s.queue ∨ i ∈ turn.woken := by
  unfold afterTurn
  dsimp only
  split
  · rw [mem_queue_wake]
    refine or_congr_left ?_
    show i ∈ s.queue.filter (· ≠ id) ↔ _
    simp [other]
  · exact mem_queue_wake _ _

end Schedule

/-! ## What the channel holds -/

namespace Channel
variable {c : Channel} {id i : ProcessId}

/-- Nothing for a process that is not subscribed, else whether a message waits for it. -/
def held? (c : Channel) (id : ProcessId) : Option Bool := c.receivers.find? id

theorem hasMessage_iff : c.hasMessage id = true ↔ c.held? id = some true := by
  unfold hasMessage held?
  cases c.receivers.find? id <;> simp

theorem held?_subscribe_self : (c.subscribe id).held? id = some false :=
  Table.find?_insert_self _ _ _

theorem held?_subscribe_of_ne (other : i ≠ id) : (c.subscribe id).held? i = c.held? i :=
  Table.find?_insert_of_ne _ other _

theorem held?_unsubscribe_of_ne (other : i ≠ id) : (c.unsubscribe id).held? i = c.held? i := by
  unfold held? unsubscribe
  rw [Table.find?_erase, if_neg other]

theorem held?_send : c.send.held? i = (c.held? i).map fun _ => true := Table.find?_mapValues _ _ _

theorem mem_subscribers (h : c.held? i ≠ none) : i ∈ c.subscribers :=
  (Table.mem_keys_iff _ _).2 (Option.ne_none_iff_exists'.1 h)

end Channel

/-! ## Turns -/

namespace Lives
variable {id i : ProcessId} {l l' : Lifecycle} {a : Activity} {next : Option Activity}

/-- A turn leaves what the channel holds for others, unless it announces the shutdown. -/
theorem held?_of_ne (h : Lives id l a l' next) (other : i ≠ id) :
    l'.channel.held? i = l.channel.held? i ∧ l'.shutdown = l.shutdown ∨
      l'.channel.held? i = (l.channel.held? i).map (fun _ => true) ∧ a.Asks ∧ l.shutdown = false := by
  cases h with
  | stops => exact .inl ⟨Channel.held?_unsubscribe_of_ne other, rfl⟩
  | heard => exact .inl ⟨Channel.held?_unsubscribe_of_ne other, rfl⟩
  | subscribes => exact .inl ⟨Channel.held?_subscribe_of_ne other, rfl⟩
  | late asks shut => exact .inl ⟨Channel.held?_unsubscribe_of_ne other, rfl⟩
  | shuts asks first ended =>
    exact .inr ⟨(Channel.held?_unsubscribe_of_ne other).trans Channel.held?_send, asks, first⟩
  | joins asks first joining => exact .inr ⟨Channel.held?_send, asks, first⟩
  | joined joining ended => exact .inl ⟨Channel.held?_unsubscribe_of_ne other, rfl⟩
  | _ => exact .inl ⟨rfl, rfl⟩

/-- A call that waits for a message after its turn has just subscribed, or has waited before. -/
theorem awaits {subscribed : Bool}
    (h : Lives id l a l' (some (.waitForShutdown subscribed none))) : subscribed = true ∧
      (l'.channel.held? id = some false ∨ a = .waitForShutdown true none ∧ l' = l) := by
  cases h with
  | call call call' => cases call'
  | subscribes => exact ⟨rfl, .inl Channel.held?_subscribe_self⟩
  | waits => exact ⟨rfl, .inr ⟨rfl, rfl⟩⟩
  | joins asks first joining => cases joining
  | waitsOn joining joining' => cases joining'

end Lives

namespace World
variable {now : Nat} {id i : ProcessId} {w : World ω} {a : Activity} {turn : WorldTurn ω}
variable {again : List ProcessId → Activity}

theorem process_join {ids woken : List ProcessId} : (join now id ids again woken w).process = none ∨
    (join now id ids again woken w).process = some (again ids) := by
  unfold join
  split
  · exact .inl rfl
  · exact .inr rfl

/-- A shutdown that has begun is over or waits for tasks. -/
theorem process_startShutdown : (startShutdown now id again w).process = none ∨
    ∃ ids, (startShutdown now id again w).process = some (again ids) := by
  unfold startShutdown
  dsimp only
  split
  · exact process_join.imp_right fun h => ⟨_, h⟩
  · exact process_join.imp_right fun h => ⟨_, h⟩

theorem woken_startShutdown (first : w.lifecycle.shutdown = false) :
    (startShutdown now id again w).woken = w.lifecycle.channel.subscribers := by
  unfold startShutdown join
  dsimp only
  rw [if_neg (Bool.eq_false_iff.1 first)]
  split <;> rfl

structure Heeds (id : ProcessId) (w : World ω) (a : Activity) (turn : WorldTurn ω) : Prop where
  lived : Lived id w a turn
  /-- Whom the shutdown is announced to is woken. -/
  others : ∀ i, i ≠ id → turn.shared.lifecycle.channel.held? i = w.lifecycle.channel.held? i ∧
      turn.shared.lifecycle.shutdown = w.lifecycle.shutdown ∨
    turn.shared.lifecycle.channel.held? i = (w.lifecycle.channel.held? i).map (fun _ => true) ∧
      (w.lifecycle.channel.held? i ≠ none → i ∈ turn.woken)
  /-- Whom a message waits for waits no longer. -/
  takes : a = .waitForShutdown true none → w.lifecycle.channel.held? id = some true →
    ∀ a', turn.process = some a' → a'.joining? ≠ none

theorem heeds_of_lived (lived : Lived id w a turn) (other : ¬ a.Asks) : Heeds id w a turn where
  lived := lived
  others i hi := by
    rcases lived.lives.held?_of_ne hi with h | ⟨-, asks, -⟩
    · exact .inl h
    · exact absurd asks other
  takes h := absurd (h ▸ .waitForShutdown) other

theorem heeds_startShutdown (asks : a.Asks) (h : ∀ ids, (again ids).joining? = some ids) :
    Heeds id w a (startShutdown now id again w) where
  lived := startShutdown_lived asks h
  others i hi := by
    rcases (startShutdown_lived asks h : Lived id w a (startShutdown now id again w)).lives.held?_of_ne hi
      with h | ⟨h, -, first⟩
    · exact .inl h
    · exact .inr ⟨h, fun hsome => woken_startShutdown first ▸ Channel.mem_subscribers hsome⟩
  takes _ _ a' ha' := by
    rcases process_startShutdown with hnone | ⟨ids, hids⟩
    · cases hnone.symm.trans ha'
    · cases hids.symm.trans ha'
      rw [h]
      exact Option.some_ne_none ids

theorem run_heeds [Collaborators ω] (now : Nat) (id : ProcessId) (fits : a.Fits) (w : World ω) :
    Heeds id w a (run now id a w) := by
  by_cases asks : a.Asks
  · cases asks with
    | shutdown => exact heeds_startShutdown .shutdown fun _ => rfl
    | waitForShutdown =>
      by_cases hmessage : w.lifecycle.channel.hasMessage id = true
      · have hrun : run now id (.waitForShutdown true none) w =
            startShutdown now id (fun ids => .waitForShutdown true (some ids)) w := if_pos hmessage
        exact hrun ▸ heeds_startShutdown .waitForShutdown fun _ => rfl
      · have hrun : run now id (.waitForShutdown true none) w =
            w.waitOn (.waitForShutdown true none) [] [] := if_neg hmessage
        refine ⟨run_lived now id fits w, ?_, fun _ htold => ?_⟩
        · rw [hrun]
          exact fun i _ => .inl ⟨rfl, rfl⟩
        · exact absurd (Channel.hasMessage_iff.2 htold) hmessage
  · exact heeds_of_lived (run_lived now id fits w) asks

end World

/-! ## What can happen -/

namespace Operation
variable {o o' o'' : Operation ω} {config : GatewayConfig} {id i : ProcessId} {a a' : Activity}

def channel (o : Operation ω) : Channel := o.world.lifecycle.channel

def announce (o : Operation ω) : Operation ω :=
  Schedule.wake (o.modify fun w =>
    { w with lifecycle := { w.lifecycle with channel := w.lifecycle.channel.send } }) o.channel.subscribers

theorem signal_eq [Collaborators ω] (o : Operation ω) : o.signal.1 = o.announce.settled := by
  unfold signal announce
  rfl

section Events
variable [Collaborators ω]

/-- One thing that happens. Processes may take their turns in any order, whether they are queued or not,
and leave the queue in their own turns only. -/
inductive Event (o : Operation ω) : Operation ω → Prop
  | turn {id : ProcessId} {a : Activity} {queue : List ProcessId}
      (found : Schedule.process? o id = some a) (kept : ∀ i ∈ o.queue, i ≠ id → i ∈ queue) :
      Event o (Schedule.afterTurn { o with queue } id (World.run o.now id a o.shared))
  /-- A loop for which both a message and a tick have come may take the tick. -/
  | tick {id : ProcessId} {task : BackgroundTask} {owned : Bool} {stage : LoopStage} {ticks : Interval}
      {queue : List ProcessId} (found : Schedule.process? o id = some (.loop task owned stage))
      (rests : stage.ticks? o.now task o.shared = some ticks) (due : ticks.isDue o.now = true)
      (kept : ∀ i ∈ o.queue, i ≠ id → i ∈ queue) :
      Event o (Schedule.afterTurn { o with queue } id (World.takeTick o.now id task owned ticks o.shared))
  | start : Event o o.startRuntime.1
  | startDirect (onChannel : Bool) (task : BackgroundTask) : Event o (o.startDirect onChannel task)
  | call (a : Activity) (made : a.Made) (new : a ≠ .waitForShutdown true none) :
      Event o (Schedule.spawn o a).1
  | listen : Event o (Operation.modify (Schedule.spawn o .listen).1 fun w =>
      { w with lifecycle := { w.lifecycle with channel := w.lifecycle.channel.subscribe o.nextId } })
  | announce : Event o o.announce
  | drop {id : ProcessId} {a : Activity} (found : Schedule.process? o id = some a) :
      Event o (Schedule.remove { o with shared := (o.shared.dropActivity id a).1 } id)
  | around {w : World ω} (same : w.lifecycle = o.shared.lifecycle) : Event o (o.modify fun _ => w)
  /-- Time passes, and further processes are queued. -/
  | pass (now : Nat) (later : o.now ≤ now) (queue : List ProcessId)
      (kept : ∀ i ∈ o.queue, Schedule.process? o i ≠ none → i ∈ queue) : Event o { o with now, queue }

abbrev Events : Operation ω → Operation ω → Prop := ReflTransGen Event

def Occurs (config : GatewayConfig) (o : Operation ω) : Prop :=
  ∃ outside : ω, Events (begin config outside) o

inductive Sends (o : Operation ω) : Operation ω → Prop
  | signal : Sends o o.announce
  | shutdown {o' : Operation ω} (event : Event o o') (before : o.world.lifecycle.shutdown = false)
      (after : o'.world.lifecycle.shutdown = true) : Sends o o'

theorem Sends.event (h : Sends o o') : Event o o' := by
  cases h with
  | signal => exact .announce
  | shutdown event before after => exact event

end Events

/-- Whether the process is a call that waits for a message, and then whether it has subscribed. -/
def awaiting? (o : Operation ω) (id : ProcessId) : Option Bool :=
  match Schedule.process? o id with
  | some (.waitForShutdown subscribed none) => some subscribed
  | _ => none

theorem awaiting?_eq_some_iff {subscribed : Bool} : o.awaiting? id = some subscribed ↔
    Schedule.process? o id = some (.waitForShutdown subscribed none) := by
  unfold awaiting?
  constructor
  · intro h
    split at h
    · next hprocess => rw [hprocess, Option.some.inj h]
    · cases h
  · intro h
    rw [h]

def Awaits (o : Operation ω) (id : ProcessId) : Prop :=
  ∃ subscribed, Schedule.process? o id = some (.waitForShutdown subscribed none)

inductive Fate (o o' : Operation ω) (i : ProcessId) (a' : Activity) : Prop
  | stays (found : Schedule.process? o i = some a') (kept : i ∈ o.queue → i ∈ o'.queue)
      (held : o'.channel.held? i = o.channel.held? i)
      (shutdown : o'.world.lifecycle.shutdown = o.world.lifecycle.shutdown)
  | told (found : Schedule.process? o i = some a') (kept : i ∈ o.queue → i ∈ o'.queue)
      (held : o'.channel.held? i = (o.channel.held? i).map fun _ => true)
      (woken : o.channel.held? i ≠ none → i ∈ o'.queue)
  | new (fresh : o.nextId ≤ i) (below : i < o'.nextId) (queued : i ∈ o'.queue) (fits : a'.Fits)
      (unheard : a' ≠ .waitForShutdown true none)
  | acts {a : Activity} {turn : World.WorldTurn ω} (found : Schedule.process? o i = some a)
      (heeds : World.Heeds i o.shared a turn) (shared : o'.shared = turn.shared)
      (next : turn.process = some a')

/-! ### Turns and announcements -/

section Turn
variable {turn : World.WorldTurn ω} {queue : List ProcessId}

theorem fate_turn (found : Schedule.process? o id = some a) (heeds : World.Heeds id o.shared a turn)
    (kept : ∀ i ∈ o.queue, i ≠ id → i ∈ queue)
    (hi : Schedule.process? (Schedule.afterTurn { o with queue } id turn) i = some a') :
    Fate o (Schedule.afterTurn { o with queue } id turn) i a' := by
  have htakes := Schedule.takes_afterTurn (s := { o with queue }) found turn
  have hshared := htakes.shared
  rw [htakes.process] at hi
  by_cases hid : i = id
  · subst hid
    rw [if_pos rfl] at hi
    exact .acts found heeds hshared hi
  · rw [if_neg hid] at hi
    have hqueue : i ∈ (Schedule.afterTurn { o with queue } id turn).queue ↔ i ∈ queue ∨ i ∈ turn.woken :=
      Schedule.mem_queue_afterTurn hid
    have hkept : i ∈ o.queue → i ∈ (Schedule.afterTurn { o with queue } id turn).queue :=
      fun hmem => hqueue.2 (.inl (kept i hmem hid))
    have hlifecycle := congrArg World.lifecycle hshared
    rcases heeds.others i hid with ⟨hheld, hshutdown⟩ | ⟨hheld, hwoken⟩
    · refine .stays hi hkept ?_ ?_
      · exact (congrArg (fun l => l.channel.held? i) hlifecycle).trans hheld
      · exact (congrArg Lifecycle.shutdown hlifecycle).trans hshutdown
    · refine .told hi hkept ?_ fun hsome => hqueue.2 (.inr (hwoken hsome))
      exact (congrArg (fun l => l.channel.held? i) hlifecycle).trans hheld

end Turn

theorem fate_announce (hi : Schedule.process? o.announce i = some a') : Fate o o.announce i a' :=
  .told hi (fun hmem => (Schedule.mem_queue_wake _ _).2 (.inl hmem)) Channel.held?_send
    fun hsome => (Schedule.mem_queue_wake _ _).2 (.inr (Channel.mem_subscribers hsome))

/-! ### New processes -/

structure Adds (o o' : Operation ω) : Prop where
  nextId : o.nextId ≤ o'.nextId
  shutdown : o'.world.lifecycle.shutdown = o.world.lifecycle.shutdown
  queue : ∀ i ∈ o.queue, i ∈ o'.queue
  held : ∀ i < o.nextId, o'.channel.held? i = o.channel.held? i
  process : ∀ i a', Schedule.process? o' i = some a' → Schedule.process? o i = some a' ∨
    o.nextId ≤ i ∧ i < o'.nextId ∧ i ∈ o'.queue ∧ a'.Fits ∧ a' ≠ .waitForShutdown true none

namespace Adds

theorem refl (o : Operation ω) : Adds o o :=
  ⟨Nat.le_refl _, rfl, fun _ h => h, fun _ _ => rfl, fun _ _ h => .inl h⟩

theorem trans (h : Adds o o') (h' : Adds o' o'') : Adds o o'' where
  nextId := Nat.le_trans h.nextId h'.nextId
  shutdown := h'.shutdown.trans h.shutdown
  queue i hi := h'.queue i (h.queue i hi)
  held i hi := (h'.held i (Nat.lt_of_lt_of_le hi h.nextId)).trans (h.held i hi)
  process i a' ha' := by
    rcases h'.process i a' ha' with hold | ⟨fresh, below, queued, hrest⟩
    · rcases h.process i a' hold with hold | ⟨fresh, below, queued, hrest⟩
      · exact .inl hold
      · exact .inr ⟨fresh, Nat.lt_of_lt_of_le below h'.nextId, h'.queue i queued, hrest⟩
    · exact .inr ⟨Nat.le_trans h.nextId fresh, below, queued, hrest⟩

theorem spawn (fits : a.Fits) (unheard : a ≠ .waitForShutdown true none) (f : World ω → World ω)
    (shutdown : (f o.shared).lifecycle.shutdown = o.world.lifecycle.shutdown)
    (held : ∀ i, i ≠ o.nextId → (f o.shared).lifecycle.channel.held? i = o.channel.held? i) :
    Adds o (Operation.modify (Schedule.spawn o a).1 f) where
  nextId := Nat.le_succ _
  shutdown := shutdown
  queue i hi := List.mem_append_left _ hi
  held i hi := held i (Nat.ne_of_lt hi)
  process i a' ha' := by
    have hspawned : (Schedule.spawn o a).1.process? i = some a' := ha'
    rw [Schedule.process?_spawn] at hspawned
    rcases Option.or_eq_some_iff.1 hspawned with hold | ⟨-, hnew⟩
    · exact .inl hold
    · obtain ⟨rfl, ha⟩ := Option.ite_none_right_eq_some.1 hnew
      cases ha
      exact .inr ⟨Nat.le_refl _, Nat.lt_succ_self _, List.mem_append_right _ (List.mem_singleton_self _),
        fits, unheard⟩

theorem startTask (owned : Bool) (o : Operation ω) (task : BackgroundTask) :
    Adds o (Operation.startTask owned o task).1 := by
  show Adds o (Operation.modify (Schedule.spawn o (.loop task owned .starting)).1 fun w =>
    let l := w.lifecycle.noteStarted task o.nextId
    if owned then { w with lifecycle := l.own o.nextId }
    else { w with lifecycle := l, stopping := w.stopping.subscribe o.nextId })
  refine spawn (a := .loop task owned .starting) trivial nofun _ ?_ fun i hi => ?_
  · cases owned <;> rfl
  · cases owned with
    | true => exact Channel.held?_subscribe_of_ne hi
    | false => rfl

theorem startRuntime (o : Operation ω) : Adds o o.startRuntime.1 := by
  unfold Operation.startRuntime
  dsimp only
  generalize o.world.lifecycle.startable o.gateway.signatures.config.enabled = tasks
  induction tasks generalizing o with
  | nil => exact .refl o
  | cons task rest ih => exact (startTask true o task).trans (ih _)

theorem startDirect (onChannel : Bool) (o : Operation ω) (task : BackgroundTask) :
    Adds o (o.startDirect onChannel task) := by
  unfold Operation.startDirect
  dsimp only
  split
  · exact .refl o
  · refine spawn (a := .loop task onChannel .starting) trivial nofun _ ?_ fun i hi => ?_
    · cases onChannel <;> rfl
    · cases onChannel with
      | true => exact Channel.held?_subscribe_of_ne hi
      | false => rfl

theorem fate (h : Adds o o') (below : ∀ i a, Schedule.process? o i = some a → i < o.nextId)
    (hi : Schedule.process? o' i = some a') : Fate o o' i a' := by
  rcases h.process i a' hi with hold | ⟨fresh, hlt, queued, fits, unheard⟩
  · exact .stays hold (h.queue i) (h.held i (below i a' hold)) h.shutdown
  · exact .new fresh hlt queued fits unheard

end Adds

/-! ### All events -/

/-- Whoever waits for a message has subscribed, or is queued to do so, and is queued when a message has
come. -/
structure Alert (o : Operation ω) : Prop where
  below : ∀ i a, Schedule.process? o i = some a → i < o.nextId
  fits : ∀ i a, Schedule.process? o i = some a → a.Fits
  begins : ∀ i, Schedule.process? o i = some (.waitForShutdown false none) → i ∈ o.queue
  listens : ∀ i, Schedule.process? o i = some (.waitForShutdown true none) →
    ∃ message, o.channel.held? i = some message ∧ (message = true → i ∈ o.queue)

theorem alert_begin (config : GatewayConfig) (outside : ω) : Alert (begin config outside) := by
  have hnobody : ∀ {p : Prop} (i : ProcessId) (a : Activity),
      Schedule.process? (begin config outside) i = some a → p :=
    fun _ _ ha => absurd ha (Option.some_ne_none _).symm
  exact ⟨fun i a => hnobody i a, fun i a => hnobody i a, fun i => hnobody i _, fun i => hnobody i _⟩

theorem Alert.of_fates (h : Alert o) (later : o.nextId ≤ o'.nextId)
    (fate : ∀ i a', Schedule.process? o' i = some a' → Fate o o' i a') : Alert o' where
  below i a' ha' := by
    cases fate i a' ha' with
    | stays found => exact Nat.lt_of_lt_of_le (h.below i a' found) later
    | told found => exact Nat.lt_of_lt_of_le (h.below i a' found) later
    | new fresh below => exact below
    | acts found => exact Nat.lt_of_lt_of_le (h.below i _ found) later
  fits i a' ha' := by
    cases fate i a' ha' with
    | stays found => exact h.fits i a' found
    | told found => exact h.fits i a' found
    | new fresh below queued fits => exact fits
    | acts found heeds shared next =>
      have hlives := heeds.lived.lives
      rw [next] at hlives
      exact hlives.kind.2
  begins i hi := by
    cases fate i _ hi with
    | stays found kept => exact kept (h.begins i found)
    | told found kept => exact kept (h.begins i found)
    | new fresh below queued => exact queued
    | acts found heeds shared next =>
      have hlives := heeds.lived.lives
      rw [next] at hlives
      cases hlives.awaits.1
  listens i hi := by
    cases fate i _ hi with
    | stays found kept held =>
      obtain ⟨message, hmessage, hqueued⟩ := h.listens i found
      exact ⟨message, held.trans hmessage, fun ht => kept (hqueued ht)⟩
    | told found kept held woken =>
      obtain ⟨message, hmessage, -⟩ := h.listens i found
      rw [hmessage] at held woken
      exact ⟨true, held, fun _ => woken (Option.some_ne_none message)⟩
    | new fresh below queued fits unheard => exact absurd rfl unheard
    | @acts a turn found heeds shared next =>
      have hlives := heeds.lived.lives
      rw [next] at hlives
      have hchannel : o'.channel = turn.shared.lifecycle.channel :=
        congrArg (fun w : World ω => w.lifecycle.channel) shared
      rw [hchannel]
      rcases hlives.awaits.2 with hheld | ⟨rfl, hsame⟩
      · exact ⟨false, hheld, nofun⟩
      · -- The call has been waiting before. Had a message come, it would not wait now.
        obtain ⟨message, hmessage, -⟩ := h.listens i found
        rw [hsame]
        cases message with
        | false => exact ⟨false, hmessage, nofun⟩
        | true => exact absurd rfl (heeds.takes rfl hmessage _ next)

variable [Collaborators ω]

theorem Event.nextId_le (event : Event o o') : o.nextId ≤ o'.nextId := by
  cases event with
  | @turn id a queue found kept =>
    exact Nat.le_of_eq (Schedule.takes_afterTurn (s := { o with queue }) found _).nextId.symm
  | @tick id task owned stage ticks queue found rests due kept =>
    exact Nat.le_of_eq (Schedule.takes_afterTurn (s := { o with queue }) found _).nextId.symm
  | start => exact (Adds.startRuntime o).nextId
  | startDirect onChannel task => exact (Adds.startDirect onChannel o task).nextId
  | call => exact Nat.le_succ _
  | listen => exact Nat.le_succ _
  | _ => exact Nat.le_refl _

theorem Event.fate (event : Event o o') (h : Alert o) (hi : Schedule.process? o' i = some a') :
    Fate o o' i a' := by
  cases event with
  | turn found kept => exact fate_turn found (World.run_heeds _ _ (h.fits _ _ found) _) kept hi
  | tick found rests due kept =>
    exact fate_turn found (World.heeds_of_lived World.takeTick_lived nofun) kept hi
  | start => exact (Adds.startRuntime o).fate h.below hi
  | startDirect onChannel task => exact (Adds.startDirect onChannel o task).fate h.below hi
  | call a made new =>
    have hfits : a.Fits := by
      refine (Activity.aside ?_).2
      rintro task owned stage rfl
      cases made.1
    exact (Adds.spawn hfits new (fun w => w) rfl fun _ _ => rfl).fate h.below hi
  | listen =>
    refine (Adds.spawn (a := .listen) trivial nofun _ ?_ fun i hne => ?_).fate h.below hi
    · rfl
    · exact Channel.held?_subscribe_of_ne hne
  | announce => exact fate_announce hi
  | @drop id a found =>
    have hakin := (World.akin_dropActivity id a o.shared).lifecycle
    have hremoved := hi
    rw [Schedule.process?_remove] at hremoved
    obtain ⟨hne, hold⟩ := Option.ite_none_left_eq_some.1 hremoved
    refine .stays hold (fun hmem => List.mem_filter.2 ⟨hmem, decide_eq_true hne⟩) ?_ ?_
    · exact congrArg (fun l : Lifecycle => l.channel.held? i) hakin
    · exact congrArg Lifecycle.shutdown hakin
  | around same =>
    refine .stays hi (fun hmem => hmem) ?_ ?_
    · exact congrArg (fun l : Lifecycle => l.channel.held? i) same
    · exact congrArg Lifecycle.shutdown same
  | pass now later queue kept =>
    have hold : Schedule.process? o i = some a' := hi
    exact .stays hold (fun hmem => kept i hmem (hold ▸ Option.some_ne_none a')) rfl rfl

theorem Event.alert (event : Event o o') (h : Alert o) : Alert o' :=
  h.of_fates event.nextId_le fun _ _ hi => event.fate h hi

theorem Events.alert (events : Events o o') (h : Alert o) : Alert o' := by
  induction events with
  | refl => exact h
  | tail _ event ih => exact event.alert ih

theorem Occurs.alert (h : Occurs config o) : Alert o := by
  obtain ⟨outside, events⟩ := h
  exact Events.alert events (alert_begin config outside)

/-! ## Calls that were told -/

/-- A message has come for the call, or has been taken: the call is over or waits for tasks. -/
structure Told (o : Operation ω) (id : ProcessId) : Prop where
  below : id < o.nextId
  process : ∀ a, Schedule.process? o id = some a →
    a = .waitForShutdown true none ∧ o.channel.held? id = some true ∨ a.joining? ≠ none

theorem Told.event (told : Told o id) (h : Alert o) (event : Event o o') : Told o' id where
  below := Nat.lt_of_lt_of_le told.below event.nextId_le
  process a' ha' := by
    cases event.fate h ha' with
    | stays found kept held => exact (told.process a' found).imp_left fun ⟨ha, hheld⟩ => ⟨ha, held.trans hheld⟩
    | told found kept held =>
      refine (told.process a' found).imp_left fun ⟨ha, hheld⟩ => ⟨ha, held.trans ?_⟩
      rw [hheld]
      rfl
    | new fresh => exact absurd told.below (Nat.not_lt.2 fresh)
    | @acts a turn found heeds shared next =>
      right
      rcases told.process a found with ⟨ha, hheld⟩ | hjoining
      · exact heeds.takes ha hheld a' next
      · rcases heeds.lived.lives.quiet_or_initiates with quiet | initiates
        · rw [quiet.stays a' next]
          exact hjoining
        · exact absurd initiates.asks.joining?_eq hjoining

theorem Told.events (told : Told o id) (h : Alert o) (events : Events o o') : Told o' id := by
  induction events with
  | refl => exact told
  | tail events event ih => exact ih.event (Events.alert events h) event

/-- A call that waits for a message when one is sent is told. -/
theorem Sends.told (sends : o.Sends o') (h : Alert o)
    (waits : Schedule.process? o id = some (.waitForShutdown true none)) : Told o' id := by
  refine ⟨Nat.lt_of_lt_of_le (h.below id _ waits) sends.event.nextId_le, fun a' ha' => ?_⟩
  obtain ⟨message, hmessage, -⟩ := h.listens id waits
  have htold : (o.channel.held? id).map (fun _ => true) = some true := by rw [hmessage]; rfl
  cases sends with
  | signal =>
    have ha : Schedule.process? o id = some a' := ha'
    exact .inl ⟨Option.some.inj (ha.symm.trans waits), Channel.held?_send.trans htold⟩
  | shutdown event before after =>
    cases event.fate h ha' with
    | stays found kept held shutdown => cases before.symm.trans (shutdown.symm.trans after)
    | told found kept held => exact .inl ⟨Option.some.inj (found.symm.trans waits), held.trans htold⟩
    | new fresh => exact absurd (h.below id _ waits) (Nat.not_lt.2 fresh)
    | @acts a turn found heeds shared next =>
      have hafter : turn.shared.lifecycle.shutdown = true :=
        (congrArg (fun w : World ω => w.lifecycle.shutdown) shared).symm.trans after
      right
      rcases heeds.lived.lives.quiet_or_initiates with quiet | initiates
      · cases before.symm.trans (quiet.shutdown.symm.trans hafter)
      · rw [initiates.stays a' next]
        exact Option.some_ne_none _

/-- Nobody who is queued is still there, so nobody can go on before the clock moves. -/
def Rests (o : Operation ω) : Prop := ∀ i ∈ o.queue, Schedule.process? o i = none

omit [Collaborators ω] in
theorem rests_of_queue (h : o.queue = []) : o.Rests := fun _ hi => absurd (h ▸ hi) List.not_mem_nil

omit [Collaborators ω] in
theorem Alert.not_awaits (h : Alert o) (rests : o.Rests) (told : Told o id) : ¬ o.Awaits id := by
  rintro ⟨subscribed, hwaits⟩
  rcases told.process _ hwaits with ⟨ha, hheld⟩ | hjoining
  · cases ha
    obtain ⟨message, hmessage, hqueued⟩ := h.listens id hwaits
    cases hmessage.symm.trans hheld
    cases hwaits.symm.trans (rests id (hqueued rfl))
  · exact hjoining rfl

/-- Whatever happens before and after, a call that waits for a message when a shutdown is initiated or
signalled does not wait for it any more when nobody can go on. -/
theorem Occurs.announced (h : Occurs config o)
    (waits : Schedule.process? o id = some (.waitForShutdown true none)) (sends : o.Sends o')
    (events : Events o' o'') (rests : o''.Rests) : ¬ o''.Awaits id := by
  have halert' := sends.event.alert h.alert
  have htold := (sends.told h.alert waits).events halert' events
  exact (Events.alert events halert').not_awaits rests htold

/-! ## The operations are made of events -/

theorem Events.step (h : Events o o') : Events o (Schedule.step World.run o') := by
  unfold Schedule.step
  cases hqueue : o'.queue with
  | nil => exact h
  | cons id queue =>
    dsimp only
    cases hw : o'.processes.lookup id with
    | none =>
      refine h.tail (.pass o'.now (Nat.le_refl _) queue fun i hi hsome => ?_)
      rcases List.mem_cons.1 (hqueue ▸ hi) with rfl | hmem
      · exact absurd (congrArg (Option.map Waiting.process) hw) hsome
      · exact hmem
    | some w =>
      refine h.tail (.turn (congrArg (Option.map Waiting.process) hw) fun i hi hne => ?_)
      exact (List.mem_cons.1 (hqueue ▸ hi)).resolve_left hne

theorem Events.later (h : Events o o') {now : Nat} (later : o'.now ≤ now) (ids : List ProcessId) :
    Events o (Schedule.wake { o' with now } ids) :=
  h.tail (.pass now later _ fun _ hi _ => (Schedule.mem_queue_wake { o' with now } ids).2 (.inl hi))

theorem Events.wake (h : Events o o') (ids : List ProcessId) : Events o (Schedule.wake o' ids) :=
  h.later (Nat.le_refl _) ids

theorem events_keeps (o : Operation ω) : Schedule.Keeps World.run (Events o) where
  step _ h := h.step
  ring _ _ later h := h.later later _
  wait _ _ h := h.tail (.pass _ (Nat.le_max_left _ _) _ fun _ hi _ => hi)

theorem Events.settled (h : Events o o') : Events o o'.settled := (events_keeps o).settle _ h

theorem Events.await (h : Events o o') (ids : List ProcessId) :
    Events o (Schedule.await World.run ids fuel o') :=
  (events_keeps o).await ids _ h

theorem Events.sleep (h : Events o o') (ms : Nat) : Events o (o'.sleep ms) :=
  settled ((events_keeps o).runUntil _ _ h)

section Calls
variable (made : a.Made) (new : a ≠ .waitForShutdown true none)
include made new

theorem Events.launch (h : Events o o') : Events o (o'.launch a).1 :=
  settled (h.tail (.call a made new))

theorem Events.perform (h : Events o o') : Events o (o'.perform a).1 :=
  settled (await (h.tail (.call a made new)) _)

end Calls

theorem Events.performAll (h : Events o o') {activities : List Activity}
    (made : ∀ a ∈ activities, a.Made ∧ a ≠ .waitForShutdown true none) :
    Events o (o'.performAll activities).1 := by
  refine settled (await ?_ _)
  exact List.foldlRecOn (motive := fun s : Operation ω × List ProcessId => Events o s.1)
    activities _ h fun s hs a ha => hs.tail (.call a (made a ha).1 (made a ha).2)

theorem Events.signal (h : Events o o') : Events o o'.signal.1 := by
  rw [signal_eq]
  exact settled (h.tail .announce)

theorem Events.listen (h : Events o o') : Events o o'.listen.1 := settled (h.tail .listen)

theorem Events.startAlone (h : Events o o') (task : BackgroundTask) : Events o (o'.startAlone task).1 := by
  have hdirect := h.tail (.startDirect false task)
  unfold Operation.startDirect at hdirect
  unfold Operation.startAlone
  dsimp only at hdirect ⊢
  split
  · exact h
  · rw [if_neg ‹_›] at hdirect
    exact settled hdirect

theorem Events.around (h : Events o o') {w : World ω} (same : w.lifecycle = o'.shared.lifecycle)
    (ids : List ProcessId) : Events o (Operation.settled (Schedule.wake (o'.modify fun _ => w) ids)) :=
  settled (wake (h.tail (.around same)) ids)

theorem Events.stopAlone (h : Events o o') : Events o o'.stopAlone.1 :=
  around (w := { o'.shared with stopping := o'.shared.stopping.send }) h rfl _

theorem Events.abort (h : Events o o') (id : ProcessId) : Events o (o'.abort id) := by
  unfold Operation.abort
  cases hprocess : Schedule.process? o' id with
  | none => exact h
  | some a => exact settled (wake (h.tail (.drop hprocess)) _)

section Example

def awaited : Operation Script :=
  let started := (begin default default).startRuntime.1
  Schedule.settle World.run 9 (Schedule.spawn started (.waitForShutdown false none)).1

def signalled : Operation Script := Schedule.settle World.run 9 awaited.announce

theorem occurs_awaited : Occurs default awaited :=
  ⟨default, (events_keeps _).settle 9
    ((ReflTransGen.single .start).tail (.call _ ⟨rfl, rfl⟩ nofun))⟩

/-- The signal reaches the call. -/
theorem announced_by_signal : Occurs default awaited ∧
    Schedule.process? awaited 4 = some (.waitForShutdown true none) ∧ awaited.Sends awaited.announce ∧
    Events awaited.announce signalled ∧ signalled.Rests ∧ ¬ signalled.Awaits 4 := by
  have hwaits : Schedule.process? awaited 4 = some (.waitForShutdown true none) :=
    awaiting?_eq_some_iff.1 (by decide +kernel)
  have hevents : Events awaited.announce signalled := (events_keeps _).settle 9 .refl
  have hrests : signalled.Rests := rests_of_queue (by decide +kernel)
  exact ⟨occurs_awaited, hwaits, .signal, hevents, hrests,
    occurs_awaited.announced hwaits .signal hevents hrests⟩

def thenWait (o : Operation Script) : Operation Script :=
  Schedule.settle World.run 9 (Schedule.spawn o (.waitForShutdown false none)).1

theorem events_thenWait (o : Operation Script) : Events o (thenWait o) :=
  (events_keeps o).settle 9 (.single (.call _ ⟨rfl, rfl⟩ nofun))

def shut : Operation Script :=
  Schedule.settle World.run 9 (Schedule.spawn (begin default default) (.shutdown none)).1

theorem occurs_shut : Occurs default shut :=
  ⟨default, (events_keeps _).settle 9 (.single (.call _ ⟨rfl, rfl⟩ nofun))⟩

/-- A call that begins to wait after the signal, or after the shutdown, waits on when nobody can go on. -/
theorem missed_afterwards : (∃ o o' : Operation Script, Occurs default o ∧ Events o.announce o' ∧
      o'.Rests ∧ o'.Awaits 0) ∧
    ∃ o o' : Operation Script, Occurs default o ∧ o.world.lifecycle.shutdown = true ∧ Events o o' ∧
      o'.Rests ∧ o'.Awaits 1 := by
  constructor
  · refine ⟨begin default default, _, ⟨default, .refl⟩, events_thenWait _, ?_, true, ?_⟩
    · exact rests_of_queue (by decide +kernel)
    · exact awaiting?_eq_some_iff.1 (by decide +kernel)
  · refine ⟨shut, _, occurs_shut, by decide +kernel, events_thenWait _, ?_, true, ?_⟩
    · exact rests_of_queue (by decide +kernel)
    · exact awaiting?_eq_some_iff.1 (by decide +kernel)

end Example

end Operation
end RelayGateway
