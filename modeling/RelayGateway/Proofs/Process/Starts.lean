import Mathlib.Data.List.Nodup
import RelayGateway.Proofs.Process.Tenure

/-! # Starts in the life of a runtime

A start adds loops that were never started before, under new processes. With that every step of a runtime
keeps the books in order: the loops are known, the handles are counted, and the shutdown waits for them.
-/
namespace RelayGateway
open Relation

variable {ω : Type}

namespace Tenure
variable {config : GatewayConfig} {x : Tenure ω} {o : Operation ω}

/-- Loops were started, and the runtime owns those among `owned`. -/
structure Starts (o o' : Operation ω) (new : List (BackgroundTask × ProcessId))
    (owned : List ProcessId) : Prop where
  keys : o'.processes.map Prod.fst = o.processes.map Prod.fst ++ new.map Prod.snd
  process : ∀ id a, Schedule.process? o' id = some a → Schedule.process? o id = some a ∨
    ∃ task onChannel, (task, id) ∈ new ∧ a = .loop task onChannel .starting
  loops : o'.loops = o.loops ++ new
  ids : new.map Prod.snd = List.range' o.nextId new.length
  nextId : o'.nextId = o.nextId + new.length
  signing : o'.gateway.signatures.config = o.gateway.signatures.config
  outcomes : o'.world.outcomes = o.world.outcomes
  started : o'.world.lifecycle.started = (new.map Prod.fst).reverse ++ o.world.lifecycle.started
  running : o'.world.lifecycle.running = (new.map Prod.snd).reverse ++ o.world.lifecycle.running
  owned : o'.world.lifecycle.owned = o.world.lifecycle.owned ++ owned
  shutdown : o'.world.lifecycle.shutdown = o.world.lifecycle.shutdown
  joining : o'.world.lifecycle.joining = o.world.lifecycle.joining
  lacks : ∀ id, o.world.lifecycle.channel.Lacks id → id ∉ new.map Prod.snd →
    o'.world.lifecycle.channel.Lacks id

namespace Starts
variable {o' o'' : Operation ω} {new new' : List (BackgroundTask × ProcessId)}
variable {owned owned' : List ProcessId}

theorem refl (o : Operation ω) : Starts o o [] [] where
  keys := (List.append_nil _).symm
  process _ _ h := .inl h
  loops := (List.append_nil _).symm
  ids := rfl
  nextId := rfl
  signing := rfl
  outcomes := rfl
  started := rfl
  running := rfl
  owned := (List.append_nil _).symm
  shutdown := rfl
  joining := rfl
  lacks _ h _ := h

theorem trans (h : Starts o o' new owned) (h' : Starts o' o'' new' owned') :
    Starts o o'' (new ++ new') (owned ++ owned') where
  keys := by rw [h'.keys, h.keys, List.map_append, List.append_assoc]
  process id a ha := by
    rcases h'.process id a ha with hold | ⟨task, onChannel, hmem, rfl⟩
    · rcases h.process id a hold with hold | ⟨task, onChannel, hmem, rfl⟩
      · exact .inl hold
      · exact .inr ⟨task, onChannel, List.mem_append_left _ hmem, rfl⟩
    · exact .inr ⟨task, onChannel, List.mem_append_right _ hmem, rfl⟩
  loops := by rw [h'.loops, h.loops, List.append_assoc]
  ids := by
    rw [List.map_append, h.ids, h'.ids, h.nextId, List.length_append, ← List.range'_append_1]
  nextId := by rw [h'.nextId, h.nextId, List.length_append, Nat.add_assoc]
  signing := h'.signing.trans h.signing
  outcomes := h'.outcomes.trans h.outcomes
  started := by rw [h'.started, h.started, List.map_append, List.reverse_append, List.append_assoc]
  running := by rw [h'.running, h.running, List.map_append, List.reverse_append, List.append_assoc]
  owned := by rw [h'.owned, h.owned, List.append_assoc]
  shutdown := h'.shutdown.trans h.shutdown
  joining := h'.joining.trans h.joining
  lacks id hid hnot := by
    rw [List.map_append, List.mem_append, not_or] at hnot
    exact h'.lacks id (h.lacks id hid hnot.1) hnot.2

/-- A process is spawned for the loop, and the world takes note of it. -/
theorem one (o : Operation ω) (task : BackgroundTask) (onChannel : Bool) (owned : List ProcessId)
    {w : World ω} {channel : Channel}
    (signing : w.gateway.signatures.config = o.gateway.signatures.config)
    (outcomes : w.outcomes = o.world.outcomes)
    (lifecycle : w.lifecycle = { o.world.lifecycle.noteStarted task o.nextId with
      owned := o.world.lifecycle.owned ++ owned, channel })
    (lacks : ∀ id, o.world.lifecycle.channel.Lacks id → id ≠ o.nextId → channel.Lacks id) :
    Starts o (Operation.modify (Schedule.spawn o (.loop task onChannel .starting)).1 fun _ => w)
      [(task, o.nextId)] owned where
  keys := List.map_append
  process id a ha := by
    have hspawned : (Schedule.spawn o (.loop task onChannel .starting)).1.process? id = some a := ha
    rw [Schedule.process?_spawn] at hspawned
    rcases Option.or_eq_some_iff.1 hspawned with hold | ⟨-, hnew⟩
    · exact .inl hold
    · split at hnew
      · rename_i hid
        cases hnew
        exact .inr ⟨task, onChannel, hid ▸ List.mem_singleton_self _, rfl⟩
      · cases hnew
  loops := List.filterMap_append
  ids := rfl
  nextId := rfl
  signing := signing
  outcomes := outcomes
  started := congrArg Lifecycle.started lifecycle
  running := congrArg Lifecycle.running lifecycle
  owned := congrArg Lifecycle.owned lifecycle
  shutdown := (congrArg Lifecycle.shutdown lifecycle).trans rfl
  joining := (congrArg Lifecycle.joining lifecycle).trans rfl
  lacks id hid hnot := by
    have hchannel := lacks id hid fun he => hnot (he ▸ List.mem_singleton_self _)
    exact (congrArg Lifecycle.channel lifecycle).symm ▸ hchannel

/-- The runtime starts a task. -/
theorem startTask (o : Operation ω) (task : BackgroundTask) :
    Starts o (Operation.startTask true o task).1 [(task, o.nextId)] [o.nextId] :=
  one o task true [o.nextId] rfl rfl rfl fun _ hid hne => hid.subscribe hne

/-- Someone else starts a task, if it can be started. -/
theorem startDirect (onChannel : Bool) (o : Operation ω) (task : BackgroundTask) :
    o.startDirect onChannel task = o ∨
      (task ∉ o.world.lifecycle.started ∧
        (task = .signatureSweep → o.gateway.signatures.config.enabled = true) ∧
          Starts o (o.startDirect onChannel task) [(task, o.nextId)] []) := by
  unfold Operation.startDirect
  dsimp only
  split
  · exact .inl rfl
  · next hnot =>
    simp only [Bool.or_eq_true, Bool.and_eq_true, decide_eq_true_eq, Bool.not_eq_true',
      List.contains_iff_mem, not_or, not_and, Bool.not_eq_false] at hnot
    refine .inr ⟨hnot.2, hnot.1, ?_⟩
    cases onChannel with
    | true =>
      refine one o task true [] rfl rfl ?_ fun _ hid hne => hid.subscribe hne
      rw [List.append_nil]
      rfl
    | false =>
      refine one o task false [] rfl rfl ?_ fun _ hid _ => hid
      rw [List.append_nil]
      rfl

/-- The runtime owns all tasks that it starts. -/
theorem startRuntime (o : Operation ω) : ∃ new,
    new.map Prod.fst = o.world.lifecycle.startable o.gateway.signatures.config.enabled ∧
      Starts o o.startRuntime.1 new (new.map Prod.snd) := by
  unfold Operation.startRuntime
  dsimp only
  generalize o.world.lifecycle.startable o.gateway.signatures.config.enabled = tasks
  induction tasks generalizing o with
  | nil => exact ⟨[], rfl, refl o⟩
  | cons task rest ih =>
    obtain ⟨new, htasks, hstarts⟩ := ih (Operation.startTask true o task).1
    exact ⟨(task, o.nextId) :: new, congrArg (task :: ·) htasks, (startTask o task).trans hstarts⟩

end Starts

end Tenure

namespace Lifecycle
variable {l : Lifecycle} {sweeps : Bool} {task : BackgroundTask}

theorem startable_of_shutdown (h : l.shutdown = true) : l.startable sweeps = [] := by
  unfold startable
  rw [if_pos h]

theorem mem_startable (h : task ∈ l.startable sweeps) :
    task ∉ l.started ∧ (task = .signatureSweep → sweeps = true) := by
  unfold startable at h
  split at h
  · cases h
  · obtain ⟨htask, hnew⟩ := List.mem_filter.1 h
    refine ⟨by simpa using hnew, ?_⟩
    rintro rfl
    cases sweeps with
    | true => rfl
    | false => simp [tasks] at htask

theorem startable_nodup : (l.startable sweeps).Nodup := by
  unfold startable
  split
  · exact List.nodup_nil
  · refine List.Nodup.sublist List.filter_sublist ?_
    cases sweeps <;> decide

end Lifecycle

namespace Tenure
variable {config : GatewayConfig} {x : Tenure ω} {o : Operation ω}
variable {new : List (BackgroundTask × ProcessId)} {owned : List ProcessId}

theorem Starts.mem_ids (starts : Starts x.operation o new owned) {e : BackgroundTask × ProcessId}
    (he : e ∈ new) : x.operation.nextId ≤ e.2 ∧ e.2 < o.nextId := by
  have hmem : e.2 ∈ new.map Prod.snd := List.mem_map_of_mem he
  rw [starts.ids, List.mem_range'_1] at hmem
  exact ⟨hmem.1, starts.nextId ▸ hmem.2⟩

theorem Starts.nextId_le (starts : Starts x.operation o new owned) : x.operation.nextId ≤ o.nextId :=
  starts.nextId ▸ Nat.le_add_right _ _

theorem Roster.starts (h : x.Roster config) (starts : Starts x.operation o new owned)
    (once : (new.map Prod.fst).Nodup) (absent : ∀ task ∈ new.map Prod.fst, task ∉ x.lifecycle.started)
    (enabled : .signatureSweep ∈ new.map Prod.fst → config.signatureCache.enabled = true)
    (returned : List Nat) (handles : List ProcessId) :
    Roster config { x with operation := o, returned, handles, loops := x.loops ++ new } := by
  have hkeys : ∀ i ∈ x.operation.processes.map Prod.fst, i < x.operation.nextId := by
    intro i hi
    obtain ⟨⟨k, w⟩, hmem, rfl⟩ := List.mem_map.1 hi
    exact h.below k w.process
      (congrArg (Option.map Waiting.process) ((Schedule.lookup_eq_some_iff_mem h.distinct).2 hmem))
  have hids : (new.map Prod.snd).Nodup := starts.ids ▸ List.nodup_range'
  have hnew : ∀ i ∈ new.map Prod.snd, x.operation.nextId ≤ i := by
    intro i hi
    obtain ⟨e, he, rfl⟩ := List.mem_map.1 hi
    exact (starts.mem_ids he).1
  constructor
  · show (o.processes.map Prod.fst).Nodup
    rw [starts.keys, List.nodup_append]
    refine ⟨h.distinct, hids, fun i hi j hj => ?_⟩
    exact Nat.ne_of_lt (Nat.lt_of_lt_of_le (hkeys i hi) (hnew j hj))
  · intro i a ha
    rcases starts.process i a ha with hold | ⟨task, onChannel, hmem, -⟩
    · exact Nat.lt_of_lt_of_le (h.below i a hold) starts.nextId_le
    · exact (starts.mem_ids hmem).2
  · intro i a ha
    rcases starts.process i a ha with hold | ⟨task, onChannel, -, rfl⟩
    · exact h.fits i a hold
    · trivial
  · intro i a ha task
    rw [List.mem_append]
    rcases starts.process i a ha with hold | ⟨task', onChannel, hmem, rfl⟩
    · rw [h.task i a hold task]
      refine ⟨.inl, fun hmem => hmem.resolve_right fun hmem => ?_⟩
      exact absurd (h.below i a hold) (Nat.not_lt.2 (starts.mem_ids hmem).1)
    · show some task' = some task ↔ _
      rw [Option.some.injEq]
      refine ⟨fun heq => .inr (heq ▸ hmem), fun hknown => ?_⟩
      rcases hknown with hknown | hnew
      · exact absurd (h.known _ hknown) (Nat.not_lt.2 (starts.mem_ids hmem).1)
      · exact congrArg Prod.fst (List.inj_on_of_nodup_map hids hmem hnew rfl)
  · intro i a ha hloop
    show i ∈ o.world.lifecycle.running
    rw [starts.running, List.mem_append, List.mem_reverse]
    rcases starts.process i a ha with hold | ⟨task, onChannel, hmem, -⟩
    · exact .inr (h.running i a hold hloop)
    · exact .inl (List.mem_map_of_mem hmem)
  · exact starts.signing.trans h.signing
  · show (x.loops ++ new).map Prod.fst = o.world.lifecycle.started.reverse
    rw [starts.started, List.map_append, h.started, List.reverse_append, List.reverse_reverse]
    rfl
  · show o.world.lifecycle.started.Nodup
    rw [starts.started, List.nodup_append]
    refine ⟨List.nodup_reverse.2 once, h.once, ?_⟩
    rintro task htask _ hstarted rfl
    exact absent task (List.mem_reverse.1 htask) hstarted
  · intro hmem
    have hmem : .signatureSweep ∈ o.world.lifecycle.started := hmem
    rw [starts.started, List.mem_append, List.mem_reverse] at hmem
    exact hmem.elim enabled h.enabled
  · intro e he
    rcases List.mem_append.1 he with he | he
    · exact Nat.lt_of_lt_of_le (h.known e he) starts.nextId_le
    · exact (starts.mem_ids he).2

theorem Custody.handle_lt (h : x.Custody) (roster : x.Roster config) :
    ∀ id ∈ x.handles, id < x.operation.nextId := by
  intro id hid
  obtain ⟨task, hknown⟩ := h.handled id hid
  exact roster.known _ hknown

theorem Custody.starts (h : x.Custody) (roster : x.Roster config)
    (starts : Starts x.operation o new owned)
    (owns : owned = [] ∨ owned = new.map Prod.snd ∧ x.first = none) (returned : List Nat) :
    Custody { x with
      operation := o, returned, handles := x.handles ++ owned, loops := x.loops ++ new } := by
  have hnew : ∀ i ∈ new.map Prod.snd, x.operation.nextId ≤ i ∧ i < o.nextId := by
    intro i hi
    obtain ⟨e, he, rfl⟩ := List.mem_map.1 hi
    exact starts.mem_ids he
  have howned : ∀ i ∈ owned, i ∈ new.map Prod.snd := by
    rcases owns with rfl | ⟨rfl, -⟩
    · exact nofun
    · exact fun i hi => hi
  have hclosed : x.first ≠ none → owned = [] := fun hsome => owns.resolve_right fun h => hsome h.2
  have hold_ne : ∀ i, i < x.operation.nextId → i ∉ new.map Prod.snd := fun i hi hmem =>
    Nat.not_lt.2 (hnew i hmem).1 hi
  have houtcome := outcome?_eq starts.outcomes
  constructor
  · intro i hi
    rcases List.mem_append.1 hi with hi | hi
    · obtain ⟨task, hknown⟩ := h.handled i hi
      exact ⟨task, List.mem_append_left _ hknown⟩
    · obtain ⟨e, he, rfl⟩ := List.mem_map.1 (howned i hi)
      exact ⟨e.1, List.mem_append_right _ he⟩
  · refine List.nodup_append.2 ⟨h.nodup, ?_, fun i hi j hj => ?_⟩
    · rcases owns with rfl | ⟨rfl, -⟩
      · exact List.nodup_nil
      · exact starts.ids ▸ List.nodup_range'
    · exact Nat.ne_of_lt (Nat.lt_of_lt_of_le (h.handle_lt roster i hi) (hnew j (howned j hj)).1)
  · show o.world.lifecycle.owned = _
    rw [starts.owned, show x.operation.world.lifecycle.owned = _ from h.owned]
    cases hfirst : x.first with
    | none => rfl
    | some id => rw [hclosed (hfirst ▸ Option.some_ne_none id)]
                 rfl
  · exact starts.shutdown.trans h.shutdown
  · intro i a ha ids
    rcases starts.process i a ha with hold | ⟨task, onChannel, hmem, rfl⟩
    · rw [h.joining i a hold ids]
      refine and_congr_right fun hfirst => ?_
      rw [hclosed (hfirst ▸ Option.some_ne_none i), List.append_nil]
    · refine ⟨nofun, fun hfirst => ?_⟩
      exact absurd (h.first_lt i hfirst.1) (Nat.not_lt.2 (starts.mem_ids hmem).1)
  · intro i a ha hjoining
    show i ∉ o.world.lifecycle.joining
    rw [starts.joining]
    rcases starts.process i a ha with hold | ⟨task, onChannel, hmem, -⟩
    · exact h.alone i a hold hjoining
    · exact (h.ahead i (starts.mem_ids hmem).1).2.2
  · intro i ha
    rcases starts.process i _ ha with hold | ⟨task, onChannel, -, hloop⟩
    · exact starts.lacks i (h.lacks i hold) (hold_ne i (roster.below i _ hold))
    · cases hloop
  · intro i a ha
    refine (houtcome i).trans ?_
    rcases starts.process i a ha with hold | ⟨task, onChannel, hmem, -⟩
    · exact h.silent i a hold
    · exact (h.ahead i (starts.mem_ids hmem).1).1
  · intro i hi
    have hahead := h.ahead i (Nat.le_trans starts.nextId_le hi)
    refine ⟨(houtcome i).trans hahead.1, ?_, fun hmem => hahead.2.2 (starts.joining ▸ hmem)⟩
    exact starts.lacks i hahead.2.1 fun hmem => Nat.not_lt.2 hi (hnew i hmem).2
  · exact fun i hi => Nat.lt_of_lt_of_le (h.first_lt i hi) starts.nextId_le
  · intro i hi hout handle hhandle hrunning
    have hhandle : handle ∈ x.handles := by
      have hnone := hclosed (hi ▸ Option.some_ne_none i)
      rwa [hnone, List.append_nil] at hhandle
    have hrunning : handle ∈ o.world.lifecycle.running := hrunning
    rw [starts.running, List.mem_append, List.mem_reverse] at hrunning
    rcases hrunning with hmem | hrunning
    · exact hold_ne handle (h.handle_lt roster handle hhandle) hmem
    · exact h.joined i hi ((houtcome i).symm.trans_ne hout) handle hhandle hrunning

/-- What is seen of a start are the loops it has started and what the runtime owns of them. -/
theorem seen_starts (roster : x.Roster config) (custody : x.Custody)
    (starts : Starts x.operation o new owned) (owns : ∀ id ∈ owned, id ∈ new.map Prod.snd) :
    x.seen o =
      { x with operation := o, handles := x.handles ++ owned, loops := x.loops ++ new } := by
  have hold_handles : x.operation.world.lifecycle.owned.filter (!x.handles.contains ·) = [] :=
    List.filter_eq_nil_iff.2 fun i hi => by simpa using custody.owned_sub i hi
  have hnew_handles : owned.filter (!x.handles.contains ·) = owned := by
    refine List.filter_eq_self.2 fun i hi => ?_
    obtain ⟨e, he, rfl⟩ := List.mem_map.1 (owns i hi)
    have hnot : e.2 ∉ x.handles := fun hmem =>
      Nat.not_lt.2 (starts.mem_ids he).1 (custody.handle_lt roster _ hmem)
    simpa using hnot
  have hold_loops : x.operation.loops.filter (!x.loops.contains ·) = [] :=
    List.filter_eq_nil_iff.2 fun e he => by simpa using roster.loops_sub e he
  have hnew_loops : new.filter (!x.loops.contains ·) = new := by
    refine List.filter_eq_self.2 fun e he => ?_
    have hnot : e ∉ x.loops := fun hmem => Nat.not_lt.2 (starts.mem_ids he).1 (roster.known e hmem)
    simpa using hnot
  unfold seen
  rw [starts.owned, starts.loops, List.filter_append, List.filter_append, hold_handles, hnew_handles,
    hold_loops, hnew_loops, List.nil_append, List.nil_append]

/-! ## Steps -/

structure Sound (config : GatewayConfig) (x : Tenure ω) : Prop where
  roster : x.Roster config
  custody : x.Custody
  counted : x.returned.sum = x.handles.length

theorem sound_begin (config : GatewayConfig) (outside : ω) : (begin config outside).Sound config := by
  have hnobody : ∀ {p : ProcessId → Activity → Prop} id a,
      Schedule.process? (begin config outside).operation id = some a → p id a :=
    fun _ a ha => absurd ha (Option.some_ne_none a).symm
  have hnever : ∀ {p : ProcessId → Prop} id, (begin config outside).first = some id → p id :=
    fun id hid => absurd hid (Option.some_ne_none id).symm
  refine ⟨?_, ?_, rfl⟩
  · exact ⟨List.nodup_nil, hnobody, hnobody, hnobody, hnobody, rfl, rfl, List.nodup_nil,
      fun h => absurd h List.not_mem_nil, fun _ h => absurd h List.not_mem_nil⟩
  · exact ⟨fun _ h => absurd h List.not_mem_nil, List.nodup_nil, rfl, rfl, hnobody, hnobody,
      fun _ _ => rfl, hnobody,
      fun _ _ => ⟨rfl, rfl, List.not_mem_nil⟩, hnever, hnever⟩

theorem Sound.calm (h : x.Sound config) (calm : Calm x.operation o) : (x.seen o).Sound config := by
  have hroster := h.roster.calm calm
  have hcustody := h.custody.calm calm
  rw [seen_eq (x := x) hroster.loops_sub hcustody.owned_sub]
  exact ⟨hroster, hcustody, h.counted⟩

theorem Sound.took (h : x.Sound config) {id : ProcessId} {a : Activity} {turn : World.WorldTurn ω}
    (taken : x.Taken id a turn o) : (x.took id o).Sound config := by
  rw [took_eq h.roster h.custody taken]
  exact ⟨h.roster.took taken _, h.custody.took h.roster taken, h.counted⟩

theorem Sound.taken (h : x.Sound config) {id : ProcessId} {a : Activity} {turn : World.WorldTurn ω}
    (found : Schedule.process? x.operation id = some a)
    (lived : World.Lived id x.operation.shared a turn) :
    x.Taken id a turn (Schedule.afterTurn x.operation id turn) :=
  ⟨found, lived, Schedule.takes_afterTurn found turn, h.roster.distinct.afterTurn turn⟩

theorem Sound.start (h : x.Sound config) : x.start.Sound config := by
  obtain ⟨new, htasks, hstarts⟩ := Starts.startRuntime x.operation
  rw [h.roster.signing] at htasks
  have howns : new.map Prod.snd = [] ∨ new.map Prod.snd = new.map Prod.snd ∧ x.first = none := by
    cases hfirst : x.first with
    | none => exact .inr ⟨rfl, rfl⟩
    | some id =>
      have hshut : x.lifecycle.shutdown = true := by rw [h.custody.shutdown, hfirst]; rfl
      have hnone := htasks.trans (Lifecycle.startable_of_shutdown hshut)
      exact .inl (congrArg (List.map Prod.snd) (List.map_eq_nil_iff.1 hnone))
  unfold Tenure.start
  rw [seen_starts h.roster h.custody hstarts fun _ hi => hi]
  refine ⟨h.roster.starts hstarts ?_ ?_ ?_ _ _, h.custody.starts h.roster hstarts howns _, ?_⟩
  · rw [htasks]
    exact Lifecycle.startable_nodup
  · rw [htasks]
    exact fun task htask => (Lifecycle.mem_startable htask).1
  · rw [htasks]
    exact fun hsweep => (Lifecycle.mem_startable hsweep).2 rfl
  · have hcount : x.operation.startRuntime.2 = new.length := by
      rw [← List.length_map Prod.fst, htasks, ← h.roster.signing]
      rfl
    simp [h.counted, hcount]

theorem Sound.startDirect (h : x.Sound config) (onChannel : Bool) (task : BackgroundTask) :
    (x.seen (x.operation.startDirect onChannel task)).Sound config := by
  rcases Starts.startDirect onChannel x.operation task with hsame | ⟨absent, enabled, hstarts⟩
  · rw [hsame, seen_eq h.roster.loops_sub h.custody.owned_sub]
    exact h
  · rw [h.roster.signing] at enabled
    rw [seen_starts h.roster h.custody hstarts nofun]
    refine ⟨h.roster.starts hstarts ?_ ?_ ?_ _ _, h.custody.starts h.roster hstarts (.inl rfl) _, ?_⟩
    · exact List.nodup_singleton task
    · exact fun t ht => (List.mem_singleton.1 ht) ▸ absent
    · exact fun ht => enabled (List.mem_singleton.1 ht).symm
    · exact h.counted.trans (congrArg List.length (List.append_nil _).symm)

theorem calm_spawn (h : x.Roster config) {a : Activity} (made : a.Made) :
    Calm x.operation (Schedule.spawn x.operation a).1 where
  distinct := h.distinct.spawn a (h.new (Nat.le_refl _))
  signing := rfl
  outcomes := rfl
  lifecycle := ⟨_, rfl⟩
  nextId := Nat.le_succ _
  process id b hb := by
    rw [Schedule.process?_spawn] at hb
    rcases Option.or_eq_some_iff.1 hb with hold | ⟨-, hnew⟩
    · exact .inl hold
    · split at hnew
      · rename_i hid
        cases hnew
        exact .inr ⟨Nat.le_of_eq hid.symm, hid ▸ Nat.lt_succ_self _, made⟩
      · cases hnew
  lacks _ h _ := h

theorem calm_listen (h : x.Roster config) :
    Calm x.operation (Operation.modify (Schedule.spawn x.operation .listen).1 fun w =>
      { w with lifecycle := { w.lifecycle with
          channel := w.lifecycle.channel.subscribe x.operation.nextId } }) := by
  have hspawn := calm_spawn h (a := .listen) ⟨rfl, rfl⟩
  refine ⟨hspawn.distinct, rfl, rfl, ⟨_, rfl⟩, hspawn.nextId, hspawn.process, fun id hid hcase => ?_⟩
  refine Channel.Lacks.subscribe hid ?_
  rintro rfl
  rcases hcase with hshutdown | hle
  · have hspawned : (Schedule.spawn x.operation .listen).1.process? x.operation.nextId =
        some (.shutdown none) := hshutdown
    rw [Schedule.process?_spawn, h.new (Nat.le_refl _), if_pos rfl] at hspawned
    cases hspawned
  · exact absurd hle (Nat.not_succ_le_self _)

theorem calm_drop (h : x.Roster config) (id : ProcessId) (a : Activity) :
    Calm x.operation (Schedule.remove
      { x.operation with shared := (x.operation.shared.dropActivity id a).1 } id) := by
  have hakin := World.akin_dropActivity id a x.operation.shared
  refine ⟨h.distinct.sublist (List.filter_sublist.map _), hakin.signing, hakin.outcomes,
    ⟨_, hakin.lifecycle⟩, Nat.le_refl _, fun i b hb => ?_, fun i hi _ => ?_⟩
  · have hremoved := hb
    rw [Schedule.process?_remove] at hremoved
    split at hremoved
    · cases hremoved
    · exact .inl hremoved
  · exact (congrArg Lifecycle.channel hakin.lifecycle) ▸ hi

theorem calm_around (h : x.Roster config) {w : World ω} (around : x.operation.shared.Around w) :
    Calm x.operation (x.operation.modify fun _ => w) := by
  obtain ⟨signing, outcomes, channel, hlifecycle, hlacks⟩ := around
  refine ⟨h.distinct, signing, outcomes, ⟨channel, hlifecycle⟩, Nat.le_refl _,
    fun _ _ ha => .inl ha, fun i hi _ => ?_⟩
  exact (congrArg Lifecycle.channel hlifecycle).symm ▸ hlacks i hi

theorem calm_schedule (h : x.Roster config) (now : Nat) (queue : List ProcessId) :
    Calm x.operation { x.operation with now, queue } :=
  ⟨h.distinct, rfl, rfl, ⟨_, rfl⟩, Nat.le_refl _, fun _ _ ha => .inl ha, fun _ hi _ => hi⟩

variable [Collaborators ω] {y : Tenure ω}

theorem Sound.step (h : x.Sound config) (step : Step x y) : y.Sound config := by
  cases step with
  | turn found => exact h.took (h.taken found (World.run_lived _ _ (h.roster.fits _ _ found) _))
  | tick found rests due => exact h.took (h.taken found World.takeTick_lived)
  | start => exact h.start
  | startDirect onChannel task => exact h.startDirect onChannel task
  | call a made => exact h.calm (calm_spawn h.roster made)
  | listen => exact h.calm (calm_listen h.roster)
  | drop found free => exact h.calm (calm_drop h.roster _ _)
  | around around => exact h.calm (calm_around h.roster around)
  | schedule now later queue => exact h.calm (calm_schedule h.roster now queue)

theorem Sound.steps (h : x.Sound config) (steps : Steps x y) : y.Sound config := by
  induction steps with
  | refl => exact h
  | tail _ step ih => exact ih.step step

theorem Reached.sound (h : Reached config x) : x.Sound config := by
  obtain ⟨outside, steps⟩ := h
  exact (sound_begin config outside).steps steps

end Tenure
end RelayGateway
