import Mathlib.Logic.Relation
import RelayGateway.Proofs.Process.Lifecycle
import RelayGateway.Proofs.Schedule
import RelayGateway.Process.Operation

/-! # The life of a runtime

A runtime is watched from its beginning on, in every order in which its tasks, the calls made of it and
the world around it can take turns. Written down is what cannot be read off a single state: what the
starts have returned, which tasks the runtime has owned, which loops were started, and which call has
shut it down.
-/
namespace RelayGateway
open Relation

variable {ω : Type}

namespace Operation

def loops (o : Operation ω) : List (BackgroundTask × ProcessId) :=
  o.processes.filterMap fun p => p.2.process.task?.map (·, p.1)

theorem mem_loops {o : Operation ω} (h : o.Distinct) {e : BackgroundTask × ProcessId} :
    e ∈ o.loops ↔ ∃ a, Schedule.process? o e.2 = some a ∧ a.task? = some e.1 := by
  unfold loops
  rw [List.mem_filterMap]
  constructor
  · rintro ⟨⟨id, w⟩, hmem, hw⟩
    obtain ⟨task, htask, rfl⟩ := Option.map_eq_some_iff.1 hw
    refine ⟨w.process, ?_, htask⟩
    exact congrArg (Option.map Waiting.process) ((Schedule.lookup_eq_some_iff_mem h).2 hmem)
  · rintro ⟨a, ha, htask⟩
    obtain ⟨w, hw, rfl⟩ := Option.map_eq_some_iff.1 ha
    refine ⟨(e.2, w), (Schedule.lookup_eq_some_iff_mem h).1 hw, ?_⟩
    dsimp only
    rw [htask]
    rfl

/-- Starts a task outside of the runtime, with the channel of the runtime or with another, unless it was
ever started. -/
def startDirect (onChannel : Bool) (o : Operation ω) (task : BackgroundTask) : Operation ω :=
  let disabled := task = .signatureSweep && !o.gateway.signatures.config.enabled
  if disabled || o.world.lifecycle.started.contains task then o
  else
    let (o, id) := Schedule.spawn o (.loop task onChannel .starting)
    let o : Operation ω := o
    o.modify fun w =>
      let l := w.lifecycle.noteStarted task id
      if onChannel then { w with lifecycle := { l with channel := l.channel.subscribe id } }
      else { w with lifecycle := l, stopping := w.stopping.subscribe id }

end Operation

/-- A call as it is made: no loop, and no shutdown that already waits for tasks. -/
structure Activity.Made (a : Activity) : Prop where
  task : a.task? = none
  joining : a.joining? = none

namespace World

/-- A change around the lifecycle: of the gateway beside the configuration of its signature cache, of the
contexts, of what waits in the channels. -/
structure Around (w w' : World ω) : Prop where
  signing : w'.gateway.signatures.config = w.gateway.signatures.config
  outcomes : w'.outcomes = w.outcomes
  lifecycle : ∃ channel, w'.lifecycle = { w.lifecycle with channel } ∧
    ∀ id, w.lifecycle.channel.Lacks id → channel.Lacks id

end World

def LoopStage.ticks? (now : Nat) (task : BackgroundTask) (w : World ω) : LoopStage → Option Interval
  | .starting => some (w.rhythm now task)
  | .idle ticks => some ticks
  | _ => none

structure Tenure (ω : Type) where
  operation : Operation ω
  /-- What the starts of the runtime have returned, in order. -/
  returned : List Nat
  /-- The tasks that the runtime has ever owned. -/
  handles : List ProcessId
  /-- The loops that were ever started, each with its process. -/
  loops : List (BackgroundTask × ProcessId)
  /-- The call that has shut the runtime down. -/
  first : Option ProcessId

namespace Tenure

def lifecycle (x : Tenure ω) : Lifecycle := x.operation.world.lifecycle

def seen (x : Tenure ω) (o : Operation ω) : Tenure ω :=
  { x with
    operation := o
    handles := x.handles ++ o.world.lifecycle.owned.filter (!x.handles.contains ·)
    loops := x.loops ++ o.loops.filter (!x.loops.contains ·) }

def took (x : Tenure ω) (id : ProcessId) (o : Operation ω) : Tenure ω :=
  { x.seen o with first := x.first.or (if o.world.lifecycle.shutdown then some id else none) }

def begin (config : GatewayConfig) (outside : ω) : Tenure ω :=
  ⟨Operation.begin config outside, [], [], [], none⟩

def start (x : Tenure ω) : Tenure ω :=
  { x.seen x.operation.startRuntime.1 with returned := x.returned ++ [x.operation.startRuntime.2] }

section Steps
variable [Collaborators ω]

/-- One step of a runtime. Activities take their turns in any order and at any pace. -/
inductive Step (x : Tenure ω) : Tenure ω → Prop
  | turn {id : ProcessId} {a : Activity} (found : Schedule.process? x.operation id = some a) :
      Step x (x.took id (Schedule.afterTurn x.operation id
        (World.run x.operation.now id a x.operation.shared)))
  /-- A loop for which both a message and a tick have come may take the tick. -/
  | tick {id : ProcessId} {task : BackgroundTask} {owned : Bool} {stage : LoopStage} {ticks : Interval}
      (found : Schedule.process? x.operation id = some (.loop task owned stage))
      (rests : stage.ticks? x.operation.now task x.operation.shared = some ticks)
      (due : ticks.isDue x.operation.now = true) :
      Step x (x.took id (Schedule.afterTurn x.operation id
        (World.takeTick x.operation.now id task owned ticks x.operation.shared)))
  | start : Step x x.start
  | startDirect (onChannel : Bool) (task : BackgroundTask) :
      Step x (x.seen (x.operation.startDirect onChannel task))
  | call (a : Activity) (made : a.Made) : Step x (x.seen (Schedule.spawn x.operation a).1)
  | listen : Step x (x.seen (Operation.modify (Schedule.spawn x.operation .listen).1 fun w =>
      { w with lifecycle := { w.lifecycle with
          channel := w.lifecycle.channel.subscribe x.operation.nextId } }))
  /-- A call is dropped, or the loop of another owner. -/
  | drop {id : ProcessId} {a : Activity} (found : Schedule.process? x.operation id = some a)
      (free : id ∉ x.handles) :
      Step x (x.seen (Schedule.remove
        { x.operation with shared := (x.operation.shared.dropActivity id a).1 } id))
  | around {w : World ω} (around : x.operation.shared.Around w) :
      Step x (x.seen (x.operation.modify fun _ => w))
  /-- Time passes, and processes are queued. -/
  | schedule (now : Nat) (later : x.operation.now ≤ now) (queue : List ProcessId) :
      Step x (x.seen { x.operation with now, queue })

abbrev Steps : Tenure ω → Tenure ω → Prop := ReflTransGen Step

def Reached (config : GatewayConfig) (x : Tenure ω) : Prop :=
  ∃ outside : ω, Steps (begin config outside) x

end Steps

variable {config : GatewayConfig} {x : Tenure ω} {o : Operation ω}

/-- What is seen adds nothing when it was all seen before. -/
theorem seen_eq (loops : ∀ e ∈ o.loops, e ∈ x.loops)
    (owned : ∀ id ∈ o.world.lifecycle.owned, id ∈ x.handles) : x.seen o = { x with operation := o } := by
  unfold seen
  rw [List.filter_eq_nil_iff.2 fun id hid => by simpa using owned id hid,
    List.filter_eq_nil_iff.2 fun e he => by simpa using loops e he, List.append_nil, List.append_nil]

/-! ## Loops -/

/-- Every loop is known, and was started once. -/
structure Roster (config : GatewayConfig) (x : Tenure ω) : Prop where
  distinct : x.operation.Distinct
  below : ∀ id a, Schedule.process? x.operation id = some a → id < x.operation.nextId
  fits : ∀ id a, Schedule.process? x.operation id = some a → a.Fits
  task : ∀ id a, Schedule.process? x.operation id = some a →
    ∀ task, a.task? = some task ↔ (task, id) ∈ x.loops
  running : ∀ id a, Schedule.process? x.operation id = some a → a.task? ≠ none →
    id ∈ x.lifecycle.running
  signing : x.operation.gateway.signatures.config = config.signatureCache
  started : x.loops.map Prod.fst = x.lifecycle.started.reverse
  once : x.lifecycle.started.Nodup
  enabled : .signatureSweep ∈ x.lifecycle.started → config.signatureCache.enabled = true
  known : ∀ e ∈ x.loops, e.2 < x.operation.nextId

theorem Roster.new (h : x.Roster config) {id : ProcessId} (hid : x.operation.nextId ≤ id) :
    Schedule.process? x.operation id = none := by
  cases hprocess : Schedule.process? x.operation id with
  | none => rfl
  | some a => exact absurd (h.below id a hprocess) (Nat.not_lt.2 hid)

/-- The loops that are there are known. -/
theorem Roster.loops_sub (h : x.Roster config) : ∀ e ∈ x.operation.loops, e ∈ x.loops := by
  intro e he
  obtain ⟨a, ha, htask⟩ := (Operation.mem_loops h.distinct).1 he
  exact (h.task e.2 a ha e.1).1 htask

/-! ## Handles -/

/-- The handles are owned until the first shutdown, which waits for all of them. -/
structure Custody (x : Tenure ω) : Prop where
  handled : ∀ id ∈ x.handles, ∃ task, (task, id) ∈ x.loops
  nodup : x.handles.Nodup
  owned : x.lifecycle.owned = if x.first.isSome then [] else x.handles
  shutdown : x.lifecycle.shutdown = x.first.isSome
  joining : ∀ id a, Schedule.process? x.operation id = some a →
    ∀ ids, a.joining? = some ids ↔ x.first = some id ∧ ids = x.handles
  /-- Only a shutdown that waits for tasks is woken by their end. -/
  alone : ∀ id a, Schedule.process? x.operation id = some a → a.joining? = none →
    id ∉ x.lifecycle.joining
  lacks : ∀ id, Schedule.process? x.operation id = some (.shutdown none) →
    x.lifecycle.channel.Lacks id
  silent : ∀ id a, Schedule.process? x.operation id = some a → x.operation.outcome? id = none
  ahead : ∀ id, x.operation.nextId ≤ id → x.operation.outcome? id = none ∧
    x.lifecycle.channel.Lacks id ∧ id ∉ x.lifecycle.joining
  first_lt : ∀ id, x.first = some id → id < x.operation.nextId
  joined : ∀ id, x.first = some id → x.operation.outcome? id ≠ none →
    ∀ h ∈ x.handles, h ∉ x.lifecycle.running

theorem Custody.owned_sub (h : x.Custody) : ∀ id ∈ x.lifecycle.owned, id ∈ x.handles := by
  intro id hid
  rw [h.owned] at hid
  split at hid
  · cases hid
  · exact hid

/-! ## Steps that start no loop -/

structure Calm (o o' : Operation ω) : Prop where
  distinct : o'.Distinct
  signing : o'.gateway.signatures.config = o.gateway.signatures.config
  outcomes : o'.world.outcomes = o.world.outcomes
  lifecycle : ∃ channel, o'.world.lifecycle = { o.world.lifecycle with channel }
  nextId : o.nextId ≤ o'.nextId
  process : ∀ id a, Schedule.process? o' id = some a → Schedule.process? o id = some a ∨
    (o.nextId ≤ id ∧ id < o'.nextId ∧ a.Made)
  lacks : ∀ id, o.world.lifecycle.channel.Lacks id →
    (Schedule.process? o' id = some (.shutdown none) ∨ o'.nextId ≤ id) →
      o'.world.lifecycle.channel.Lacks id

theorem Roster.calm (h : x.Roster config) (calm : Calm x.operation o) :
    Roster config { x with operation := o } := by
  obtain ⟨channel, hlifecycle⟩ := calm.lifecycle
  have hmade : ∀ {a : Activity}, a.Made → a.Fits := fun made =>
    (Activity.aside (by rintro task owned stage rfl; cases made.task)).2
  constructor
  · exact calm.distinct
  · intro id a ha
    rcases calm.process id a ha with hold | ⟨-, hlt, -⟩
    · exact Nat.lt_of_lt_of_le (h.below id a hold) calm.nextId
    · exact hlt
  · intro id a ha
    rcases calm.process id a ha with hold | ⟨-, -, made⟩
    · exact h.fits id a hold
    · exact hmade made
  · intro id a ha task
    rcases calm.process id a ha with hold | ⟨hle, -, made⟩
    · exact h.task id a hold task
    · rw [made.task]
      refine ⟨nofun, fun hknown => ?_⟩
      exact absurd (h.known _ hknown) (Nat.not_lt.2 hle)
  · intro id a ha hloop
    rw [show lifecycle { x with operation := o } = _ from hlifecycle]
    rcases calm.process id a ha with hold | ⟨-, -, made⟩
    · exact h.running id a hold hloop
    · exact absurd made.task hloop
  · exact calm.signing.trans h.signing
  · rw [show lifecycle { x with operation := o } = _ from hlifecycle]
    exact h.started
  · rw [show lifecycle { x with operation := o } = _ from hlifecycle]
    exact h.once
  · rw [show lifecycle { x with operation := o } = _ from hlifecycle]
    exact h.enabled
  · exact fun e he => Nat.lt_of_lt_of_le (h.known e he) calm.nextId

theorem outcome?_eq {o o' : Operation ω} (h : o'.world.outcomes = o.world.outcomes)
    (id : ProcessId) : o'.outcome? id = o.outcome? id := by
  unfold Operation.outcome?
  rw [h]

theorem Custody.calm (h : x.Custody) (calm : Calm x.operation o) :
    Custody { x with operation := o } := by
  obtain ⟨channel, hlifecycle⟩ := calm.lifecycle
  have hlifecycle : lifecycle { x with operation := o } = { x.lifecycle with channel } := hlifecycle
  have houtcome := outcome?_eq calm.outcomes
  constructor
  · exact h.handled
  · exact h.nodup
  · rw [hlifecycle]
    exact h.owned
  · rw [hlifecycle]
    exact h.shutdown
  · intro id a ha ids
    rcases calm.process id a ha with hold | ⟨hle, -, made⟩
    · exact h.joining id a hold ids
    · rw [made.joining]
      exact ⟨nofun, fun hfirst => absurd (h.first_lt id hfirst.1) (Nat.not_lt.2 hle)⟩
  · intro id a ha hjoining
    rw [hlifecycle]
    rcases calm.process id a ha with hold | ⟨hle, -, -⟩
    · exact h.alone id a hold hjoining
    · exact (h.ahead id hle).2.2
  · intro id ha
    refine calm.lacks id ?_ (.inl ha)
    rcases calm.process id _ ha with hold | ⟨hle, -, -⟩
    · exact h.lacks id hold
    · exact (h.ahead id hle).2.1
  · intro id a ha
    rw [houtcome]
    rcases calm.process id a ha with hold | ⟨hle, -, -⟩
    · exact h.silent id a hold
    · exact (h.ahead id hle).1
  · intro id hle
    obtain ⟨hout, hlacks, hjoining⟩ := h.ahead id (Nat.le_trans calm.nextId hle)
    refine ⟨(houtcome id).trans hout, calm.lacks id hlacks (.inr hle), ?_⟩
    rw [hlifecycle]
    exact hjoining
  · exact fun id hid => Nat.lt_of_lt_of_le (h.first_lt id hid) calm.nextId
  · intro id hid hout
    rw [houtcome] at hout
    rw [hlifecycle]
    exact h.joined id hid hout

/-! ## Turns -/

structure Taken (x : Tenure ω) (id : ProcessId) (a : Activity) (turn : World.WorldTurn ω)
    (o : Operation ω) : Prop where
  found : Schedule.process? x.operation id = some a
  lived : World.Lived id x.operation.shared a turn
  takes : Schedule.Takes x.operation o id turn
  distinct : o.Distinct

section Turn
variable {id i : ProcessId} {a b : Activity} {turn : World.WorldTurn ω}

theorem Taken.lives (h : x.Taken id a turn o) :
    Lives id x.lifecycle a o.world.lifecycle turn.process :=
  (show o.world.lifecycle = _ from congrArg World.lifecycle h.takes.shared) ▸ h.lived.lives

/-- After a turn, each process is the one that took it or stands as before. -/
theorem Taken.cases (h : x.Taken id a turn o) (hb : Schedule.process? o i = some b) :
    (i = id ∧ turn.process = some b) ∨ (i ≠ id ∧ Schedule.process? x.operation i = some b) := by
  rw [h.takes.process] at hb
  split at hb
  · exact .inl ⟨‹_›, hb⟩
  · exact .inr ⟨‹_›, hb⟩

theorem Taken.outcome?_eq (h : x.Taken id a turn o) (other : i ≠ id ∨ turn.process ≠ none) :
    o.outcome? i = x.operation.outcome? i := by
  unfold Operation.outcome? Operation.world
  rw [h.takes.shared]
  exact h.lived.lookup_outcomes other

theorem Taken.kind (h : x.Taken id a turn o) (hb : turn.process = some b) :
    b.task? = a.task? ∧ b.Fits := by
  have hlives := h.lives
  rw [hb] at hlives
  exact hlives.kind

theorem took_eq (roster : x.Roster config) (custody : x.Custody) (h : x.Taken id a turn o) :
    x.took id o = { x with
      operation := o
      first := x.first.or (if o.world.lifecycle.shutdown then some id else none) } := by
  unfold took
  rw [seen_eq]
  · intro e he
    obtain ⟨b, hb, htask⟩ := (Operation.mem_loops h.distinct).1 he
    rcases h.cases hb with ⟨hid, hturn⟩ | ⟨-, hold⟩
    · rw [(h.kind hturn).1] at htask
      exact (roster.task e.2 a (hid ▸ h.found) e.1).1 htask
    · exact (roster.task e.2 b hold e.1).1 htask
  · intro i hi
    rcases h.lives.quiet_or_initiates with quiet | initiates
    · exact custody.owned_sub i (quiet.owned ▸ hi)
    · rw [initiates.owned] at hi
      cases hi

theorem Roster.took (roster : x.Roster config) (h : x.Taken id a turn o) (first : Option ProcessId) :
    Roster config { x with operation := o, first } := by
  constructor
  · exact h.distinct
  · intro i b hb
    show i < o.nextId
    rw [h.takes.nextId]
    rcases h.cases hb with ⟨rfl, -⟩ | ⟨-, hold⟩
    · exact roster.below i a h.found
    · exact roster.below i b hold
  · intro i b hb
    rcases h.cases hb with ⟨-, hturn⟩ | ⟨-, hold⟩
    · exact (h.kind hturn).2
    · exact roster.fits i b hold
  · intro i b hb task
    rcases h.cases hb with ⟨rfl, hturn⟩ | ⟨-, hold⟩
    · rw [(h.kind hturn).1]
      exact roster.task i a h.found task
    · exact roster.task i b hold task
  · intro i b hb hloop
    rcases h.cases hb with ⟨rfl, hturn⟩ | ⟨hne, hold⟩
    · rw [(h.kind hturn).1] at hloop
      refine h.lives.running (roster.running i a h.found hloop) fun _ hnone => ?_
      cases hturn.symm.trans hnone
    · exact h.lives.running (roster.running i b hold hloop) fun hid => absurd hid hne
  · exact (congrArg (fun w : World ω => w.gateway.signatures.config) h.takes.shared).trans
      (h.lived.signing.trans roster.signing)
  · exact roster.started.trans (congrArg List.reverse h.lives.started_eq.symm)
  · exact h.lives.started_eq ▸ roster.once
  · exact h.lives.started_eq ▸ roster.enabled
  · exact fun e he => h.takes.nextId ▸ roster.known e he

theorem Custody.lacks_took (custody : x.Custody) (h : x.Taken id a turn o)
    (hi : Schedule.process? o i = some (.shutdown none)) : o.world.lifecycle.channel.Lacks i := by
  rcases h.cases hi with ⟨-, hturn⟩ | ⟨hne, hold⟩
  · exact absurd hturn h.lives.next_ne
  · exact h.lives.lacks (custody.lacks i hold) hne

theorem Custody.silent_took (custody : x.Custody) (h : x.Taken id a turn o)
    (hb : Schedule.process? o i = some b) : o.outcome? i = none := by
  rcases h.cases hb with ⟨rfl, hturn⟩ | ⟨hne, hold⟩
  · have hsome : turn.process ≠ none := hturn ▸ Option.some_ne_none b
    exact (h.outcome?_eq (.inr hsome)).trans (custody.silent i a h.found)
  · exact (h.outcome?_eq (.inl hne)).trans (custody.silent i b hold)

theorem Custody.ahead_took (custody : x.Custody) (roster : x.Roster config) (h : x.Taken id a turn o)
    (hi : o.nextId ≤ i) : i ≠ id ∧ o.outcome? i = none ∧ o.world.lifecycle.channel.Lacks i ∧
      i ∉ x.lifecycle.joining := by
  rw [h.takes.nextId] at hi
  have hne : i ≠ id := Nat.ne_of_gt (Nat.lt_of_lt_of_le (roster.below id a h.found) hi)
  obtain ⟨hout, hchannel, hjoining⟩ := custody.ahead i hi
  exact ⟨hne, (h.outcome?_eq (.inl hne)).trans hout, h.lives.lacks hchannel hne, hjoining⟩

/-- Those whom a shutdown has found ended are not running after its turn. -/
theorem Taken.not_running (h : x.Taken id a turn o) {ids : List ProcessId}
    (ended : x.lifecycle.allEnded ids = true) (hi : i ∈ ids) : i ∉ o.world.lifecycle.running := by
  intro hrunning
  have hended := List.all_eq_true.1 ended i hi
  have hbefore := h.lives.mem_running hrunning
  simp [hbefore] at hended

theorem Custody.took_quiet (custody : x.Custody) (roster : x.Roster config) (h : x.Taken id a turn o)
    (quiet : Lives.Quiet x.lifecycle o.world.lifecycle a turn.process) :
    Custody { x with operation := o } := by
  constructor
  · exact custody.handled
  · exact custody.nodup
  · exact quiet.owned.trans custody.owned
  · exact quiet.shutdown.trans custody.shutdown
  · intro i b hb ids
    rcases h.cases hb with ⟨rfl, hturn⟩ | ⟨-, hold⟩
    · rw [quiet.stays b hturn]
      exact custody.joining i a h.found ids
    · exact custody.joining i b hold ids
  · intro i b hb hnone hi
    rcases h.cases hb with ⟨rfl, hturn⟩ | ⟨-, hold⟩
    · rw [quiet.stays b hturn] at hnone
      exact custody.alone i a h.found hnone (quiet.joining i hi)
    · exact custody.alone i b hold hnone (quiet.joining i hi)
  · exact fun i hi => custody.lacks_took h hi
  · exact fun i b hb => custody.silent_took h hb
  · intro i hi
    obtain ⟨-, hout, hchannel, hjoining⟩ := custody.ahead_took roster h hi
    exact ⟨hout, hchannel, fun hmem => hjoining (quiet.joining i hmem)⟩
  · exact fun i hi => h.takes.nextId ▸ custody.first_lt i hi
  · intro i hi hout handle hhandle
    by_cases hother : i ≠ id ∨ turn.process ≠ none
    · rw [show Operation.outcome? o i = _ from h.outcome?_eq hother] at hout
      exact fun hrunning => custody.joined i hi hout handle hhandle (h.lives.mem_running hrunning)
    · -- The first shutdown has ended in this turn: all for whom it waits have ended.
      rw [not_or, not_not, not_not] at hother
      obtain ⟨rfl, hnone⟩ := hother
      exact h.not_running
        (quiet.ends hnone _ ((custody.joining i a h.found x.handles).2 ⟨hi, rfl⟩)) hhandle

theorem Custody.took_initiates (custody : x.Custody) (roster : x.Roster config)
    (h : x.Taken id a turn o) (none_before : x.first = none)
    (initiates : Lives.Initiates id x.lifecycle o.world.lifecycle a turn.process) :
    Custody { x with operation := o, first := some id } := by
  have howned : x.lifecycle.owned = x.handles := by
    rw [custody.owned, none_before]
    rfl
  constructor
  · exact custody.handled
  · exact custody.nodup
  · exact initiates.owned
  · exact initiates.shutdown
  · intro i b hb ids
    rcases h.cases hb with ⟨rfl, hturn⟩ | ⟨hne, hold⟩
    · rw [initiates.stays b hturn, howned]
      simp [eq_comm]
    · rw [custody.joining i b hold ids, none_before]
      simp [hne.symm]
  · intro i b hb hjoining hi
    rcases h.cases hb with ⟨rfl, hturn⟩ | ⟨hne, hold⟩
    · cases (initiates.stays b hturn).symm.trans hjoining
    · exact custody.alone i b hold hjoining ((initiates.joining i hi).resolve_right hne)
  · exact fun i hi => custody.lacks_took h hi
  · exact fun i b hb => custody.silent_took h hb
  · intro i hi
    obtain ⟨hne, hout, hchannel, hjoining⟩ := custody.ahead_took roster h hi
    exact ⟨hout, hchannel, fun hmem => hjoining ((initiates.joining i hmem).resolve_right hne)⟩
  · rintro i ⟨⟩
    exact h.takes.nextId ▸ roster.below id a h.found
  · rintro i ⟨⟩ hout handle hhandle
    have hnext : turn.process = none := by
      refine Decidable.not_not.1 fun hsome => hout ?_
      exact (h.outcome?_eq (.inr hsome)).trans (custody.silent id a h.found)
    exact h.not_running (initiates.ends hnext) (howned ▸ hhandle)

theorem Custody.took (custody : x.Custody) (roster : x.Roster config) (h : x.Taken id a turn o) :
    Custody { x with
      operation := o
      first := x.first.or (if o.world.lifecycle.shutdown then some id else none) } := by
  rcases h.lives.quiet_or_initiates with quiet | initiates
  · have hfirst : x.first.or (if o.world.lifecycle.shutdown then some id else none) = x.first := by
      rw [quiet.shutdown, custody.shutdown]
      cases x.first <;> rfl
    rw [hfirst]
    exact custody.took_quiet roster h quiet
  · have hnone : x.first = none :=
      Option.isNone_iff_eq_none.1 (Option.isSome_eq_false_iff.1
        (custody.shutdown.symm.trans initiates.before))
    rw [hnone, initiates.shutdown]
    exact custody.took_initiates roster h hnone initiates

end Turn

end Tenure
end RelayGateway
