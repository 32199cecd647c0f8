import RelayGateway.Process.Turns
import RelayGateway.Proofs.Relay.Moves
import RelayGateway.Proofs.Signing.Coherence
import RelayGateway.Proofs.Table

/-! # What a turn does to the lifecycle

Background tasks, listeners and shutdowns change the lifecycle, and calls leave it alone. An activity
that ends leaves one outcome under its id. No turn changes how the signature cache is configured.
-/
namespace RelayGateway

/-! ## The configuration of the signature cache -/

namespace SignatureCache
variable {c : SignatureCache} {id : CallId} {request : RelayRequest} {app : Application}

theorem config_resume : (c.resume id).cache.config = c.config := by
  have hresumed := resumed c id
  generalize c.resume id = step at hresumed
  cases hresumed with
  | stays pending => rfl
  | adopts found stage shared filled => exact config_release
  | rechecks found stage shared empty turn => exact config_recheck

theorem config_begin : (c.begin id request app).cache.config = c.config := by
  unfold begin
  split
  · dsimp only
    split
    · split
      · rfl
      · exact config_resume.trans config_enter
    · exact config_resume.trans config_enter
  · rfl

theorem config_finish {result : Except SignerError SignedRelay} :
    (c.finish id result).cache.config = c.config := by
  unfold finish
  split
  · split
    · split
      · exact config_release.trans (config_fill.trans config_store)
      · exact config_release.trans config_passTurn
    · exact config_release
    · rfl
  · rfl

end SignatureCache

variable {ω : Type}

namespace Attempt

theorem config_drop (id : ProcessId) (r : Relays ω) (stage : AttemptStage) :
    (drop id r stage).signatures.config = r.signatures.config := by
  cases stage with
  | signing answer => exact SignatureCache.config_cancel
  | sharing => exact SignatureCache.config_cancel
  | queueing body => rfl
  | posting reply => rfl
  | validating verdict => rfl

variable [Collaborators ω] {a : Attempt} {now : Nat} {id : ProcessId} {r r' : Relays ω}
variable {p p' : Phase} {x : Relays ω × Phase} {s : Relays ω × AttemptProgress}

theorem Move.config (move : a.Move now id (r, p) (r', p')) :
    r'.signatures.config = r.signatures.config := by
  cases move with
  | begin protocol good => exact SignatureCache.config_begin
  | resume good => exact SignatureCache.config_resume
  | signed ready => exact SignatureCache.config_finish
  | lapse due unready => exact config_drop id r _
  | _ => rfl

theorem Turned.config (h : a.Turned now id x s) : s.1.signatures.config = x.1.signatures.config :=
  h.keeps (fun r _ => r.signatures.config = x.1.signatures.config)
    (fun move hr => move.config.trans hr) rfl

end Attempt

namespace Dispatch
variable {now deadline : Nat} {id : ProcessId} {payload : RelayPayload} {a : Attempt}
variable {c : RequestContext} {s : Relays ω × AttemptProgress}

theorem relays_afterLast : (afterLast now payload deadline a c s).2.1 = s.1 := by
  obtain ⟨r, progress⟩ := s
  cases progress <;> rfl

variable [Collaborators ω]

theorem config_advance {retry : Option Endpoint} :
    (advance now id payload deadline a retry c s).2.1.signatures.config = s.1.signatures.config := by
  obtain ⟨r, progress⟩ := s
  cases retry with
  | none => exact congrArg (fun r : Relays ω => r.signatures.config) relays_afterLast
  | some fallback =>
    cases progress with
    | waiting stage => rfl
    | done result =>
      cases result with
      | ok response => rfl
      | error e =>
        refine (congrArg (fun r : Relays ω => r.signatures.config) relays_afterLast).trans ?_
        exact ((attemptAt fallback payload now deadline).start_turned now id r).config

theorem config_begin {config : RelayConfig} {r : Relays ω} :
    (begin config now id payload c r).2.1.signatures.config = r.signatures.config := by
  unfold begin
  split
  · rfl
  · exact config_advance.trans (Attempt.start_turned _ now id r).config

theorem config_resume {d : Dispatch} {r : Relays ω} :
    (d.resume now id c r).2.1.signatures.config = r.signatures.config :=
  config_advance.trans (d.attempt.resume_turned now id r d.stage).config

end Dispatch

/-! ## Parts in the lifecycle -/

def LoopStage.Fits (task : BackgroundTask) : LoopStage → Prop
  | .refreshing .. => task = .refresh
  | .polling .. => task = .rollover
  | _ => True

namespace Activity

def isCall : Activity → Bool
  | .loop .. | .listen | .shutdown _ | .waitForShutdown .. => false
  | _ => true

def task? : Activity → Option BackgroundTask
  | .loop task _ _ => some task
  | _ => none

def Fits : Activity → Prop
  | .loop task _ stage => stage.Fits task
  | _ => True

theorem aside {a : Activity} (h : ∀ task owned stage, a ≠ .loop task owned stage) :
    a.task? = none ∧ a.Fits := by
  cases a with
  | loop task owned stage => exact absurd rfl (h task owned stage)
  | _ => exact ⟨rfl, trivial⟩

def joining? : Activity → Option (List ProcessId)
  | .shutdown joining => joining
  | .waitForShutdown _ joining => joining
  | _ => none

theorem joining?_of_isCall {a : Activity} (h : a.isCall = true) : a.joining? = none := by
  cases a with
  | shutdown joining => cases h
  | waitForShutdown subscribed joining => cases h
  | _ => rfl

inductive Asks : Activity → Prop
  | shutdown : Asks (.shutdown none)
  | waitForShutdown : Asks (.waitForShutdown true none)

theorem Asks.joining?_eq {a : Activity} (h : a.Asks) : a.joining? = none := by
  cases h <;> rfl

end Activity

namespace Lifecycle

/-- The lifecycle after the shutdown that initiates it, before anything has ended. -/
def shutBy (l : Lifecycle) (id : ProcessId) : Lifecycle :=
  { l.initiate with joining := id :: l.joining }

def leave (l : Lifecycle) (id : ProcessId) : Lifecycle :=
  { l with joining := l.joining.filter (· ≠ id), channel := l.channel.unsubscribe id }

end Lifecycle

/-- What one turn makes of the lifecycle and of the activity. -/
inductive Lives (id : ProcessId) (l : Lifecycle) : Activity → Lifecycle → Option Activity → Prop
  | call {a a' : Activity} (call : a.isCall = true) (call' : a'.isCall = true) : Lives id l a l (some a')
  | called {a : Activity} (call : a.isCall = true) : Lives id l a l none
  | works {task : BackgroundTask} {owned : Bool} {stage stage' : LoopStage} (fits : stage'.Fits task) :
      Lives id l (.loop task owned stage) l (some (.loop task owned stage'))
  | stops {task : BackgroundTask} {owned : Bool} {stage : LoopStage} :
      Lives id l (.loop task owned stage) (l.noteEnded id) none
  | listens : Lives id l .listen l (some .listen)
  | heard : Lives id l .listen { l with channel := l.channel.unsubscribe id } none
  | subscribes : Lives id l (.waitForShutdown false none)
      { l with channel := l.channel.subscribe id } (some (.waitForShutdown true none))
  | waits : Lives id l (.waitForShutdown true none) l (some (.waitForShutdown true none))
  /-- There is nothing to shut down any more. -/
  | late {a : Activity} (asks : a.Asks) (shut : l.shutdown = true) : Lives id l a (l.leave id) none
  | shuts {a : Activity} (asks : a.Asks) (first : l.shutdown = false)
      (ended : l.allEnded l.owned = true) : Lives id l a ((l.shutBy id).leave id) none
  | joins {a a' : Activity} (asks : a.Asks) (first : l.shutdown = false)
      (joining : a'.joining? = some l.owned) : Lives id l a (l.shutBy id) (some a')
  | waitsOn {a a' : Activity} {ids : List ProcessId} (joining : a.joining? = some ids)
      (joining' : a'.joining? = some ids) : Lives id l a l (some a')
  | joined {a : Activity} {ids : List ProcessId} (joining : a.joining? = some ids)
      (ended : l.allEnded ids = true) : Lives id l a (l.leave id) none

namespace Channel
variable {c : Channel} {id id' : ProcessId}

def Lacks (c : Channel) (id : ProcessId) : Prop := c.receivers.find? id = none

theorem Lacks.unsubscribe (h : c.Lacks id) : (c.unsubscribe id').Lacks id := by
  unfold Lacks Channel.unsubscribe
  rw [Table.find?_erase, h]
  exact ite_self none

theorem Lacks.subscribe (h : c.Lacks id) (other : id ≠ id') : (c.subscribe id').Lacks id := by
  unfold Lacks Channel.subscribe
  rw [Table.find?_insert_of_ne _ other]
  exact h

theorem Lacks.send (h : c.Lacks id) : c.send.Lacks id := by
  unfold Lacks Channel.send
  rw [Table.find?_mapValues, h]
  rfl

theorem unsubscribe_of_lacks (h : c.Lacks id) : c.unsubscribe id = c := by
  have hkeys := (Table.find?_eq_none_iff _ _).1 h
  obtain ⟨⟨entries, distinct⟩⟩ := c
  unfold unsubscribe Table.erase Table.filter
  congr 2
  refine List.filter_eq_self.2 fun e he => ?_
  simp only [decide_eq_true_eq]
  rintro rfl
  exact hkeys (List.mem_map_of_mem he)

end Channel

namespace Lives
variable {id i : ProcessId} {l l' : Lifecycle} {a a' : Activity} {next : Option Activity}

theorem started_eq (h : Lives id l a l' next) : l'.started = l.started := by
  cases h <;> rfl

theorem mem_running (h : Lives id l a l' next) (running : i ∈ l'.running) : i ∈ l.running := by
  cases h with
  | stops => exact (List.mem_filter.1 running).1
  | _ => exact running

/-- A process that goes on is still running. -/
theorem running (h : Lives id l a l' next) (hi : i ∈ l.running) (goes : i = id → next ≠ none) :
    i ∈ l'.running := by
  cases h with
  | stops =>
    refine List.mem_filter.2 ⟨hi, decide_eq_true fun hid => ?_⟩
    exact goes hid rfl
  | _ => exact hi

/-- An activity that goes on is of its kind. -/
theorem kind (h : Lives id l a l' (some a')) : a'.task? = a.task? ∧ a'.Fits := by
  have hcalls : ∀ {a : Activity}, a.isCall = true → a.task? = none ∧ a.Fits := fun hcall =>
    Activity.aside (by rintro task owned stage rfl; cases hcall)
  have hjoins : ∀ {a : Activity} {ids : List ProcessId}, a.joining? = some ids →
      a.task? = none ∧ a.Fits := fun hjoining =>
    Activity.aside (by rintro task owned stage rfl; cases hjoining)
  cases h with
  | call call call' => exact ⟨(hcalls call').1.trans (hcalls call).1.symm, (hcalls call').2⟩
  | works fits => exact ⟨rfl, fits⟩
  | joins asks first joining =>
    refine ⟨(hjoins joining).1.trans ?_, (hjoins joining).2⟩
    cases asks <;> rfl
  | waitsOn joining joining' => exact ⟨(hjoins joining').1.trans (hjoins joining).1.symm, (hjoins joining').2⟩
  | _ => exact ⟨rfl, trivial⟩

/-- A shutdown that has had its first turn is over or waits. -/
theorem next_ne (h : Lives id l a l' next) : next ≠ some (.shutdown none) := by
  rintro rfl
  cases h with
  | call call call' => cases call'
  | joins asks first joining => cases joining
  | waitsOn joining joining' => cases joining'

theorem lacks (h : Lives id l a l' next) (lacks : l.channel.Lacks i) (other : i ≠ id) :
    l'.channel.Lacks i := by
  cases h with
  | stops => exact lacks.unsubscribe
  | heard => exact lacks.unsubscribe
  | subscribes => exact lacks.subscribe other
  | late asks shut => exact lacks.unsubscribe
  | shuts asks first ended => exact lacks.send.unsubscribe
  | joins asks first joining => exact lacks.send
  | joined joining ended => exact lacks.unsubscribe
  | _ => exact lacks

structure Quiet (l l' : Lifecycle) (a : Activity) (next : Option Activity) : Prop where
  shutdown : l'.shutdown = l.shutdown
  owned : l'.owned = l.owned
  joining : ∀ i ∈ l'.joining, i ∈ l.joining
  stays : ∀ a', next = some a' → a'.joining? = a.joining?
  ends : next = none → ∀ ids, a.joining? = some ids → l.allEnded ids = true

theorem Quiet.goesOn (shutdown : l'.shutdown = l.shutdown) (owned : l'.owned = l.owned)
    (joining : l'.joining = l.joining) (stays : a'.joining? = a.joining?) : Quiet l l' a (some a') where
  shutdown := shutdown
  owned := owned
  joining _ hi := joining ▸ hi
  stays _ h := Option.some.inj h ▸ stays
  ends h := absurd h (Option.some_ne_none a')

theorem Quiet.stops (shutdown : l'.shutdown = l.shutdown) (owned : l'.owned = l.owned)
    (joining : ∀ i ∈ l'.joining, i ∈ l.joining)
    (ends : ∀ ids, a.joining? = some ids → l.allEnded ids = true) : Quiet l l' a none where
  shutdown := shutdown
  owned := owned
  joining := joining
  stays a' h := absurd h.symm (Option.some_ne_none a')
  ends _ := ends

structure Initiates (id : ProcessId) (l l' : Lifecycle) (a : Activity) (next : Option Activity) :
    Prop where
  asks : a.Asks
  before : l.shutdown = false
  shutdown : l'.shutdown = true
  owned : l'.owned = []
  joining : ∀ i ∈ l'.joining, i ∈ l.joining ∨ i = id
  stays : ∀ a', next = some a' → a'.joining? = some l.owned
  ends : next = none → l.allEnded l.owned = true

theorem quiet_or_initiates (h : Lives id l a l' next) :
    Quiet l l' a next ∨ Initiates id l l' a next := by
  have hleaves : ∀ {l : Lifecycle}, ∀ i ∈ (l.leave id).joining, i ∈ l.joining := fun i hi =>
    (List.mem_filter.1 hi).1
  have hnone : ∀ {a : Activity}, a.joining? = none →
      ∀ ids, a.joining? = some ids → l.allEnded ids = true := fun h ids h' =>
    absurd (h.symm.trans h') (Option.some_ne_none ids).symm
  cases h with
  | call call call' =>
    exact .inl (.goesOn rfl rfl rfl ((Activity.joining?_of_isCall call').trans
      (Activity.joining?_of_isCall call).symm))
  | called call =>
    exact .inl (.stops rfl rfl (fun i hi => hi) (hnone (Activity.joining?_of_isCall call)))
  | works fits => exact .inl (.goesOn rfl rfl rfl rfl)
  | stops => exact .inl (.stops rfl rfl (fun i hi => hi) (hnone rfl))
  | listens => exact .inl (.goesOn rfl rfl rfl rfl)
  | heard => exact .inl (.stops rfl rfl (fun i hi => hi) (hnone rfl))
  | subscribes => exact .inl (.goesOn rfl rfl rfl rfl)
  | waits => exact .inl (.goesOn rfl rfl rfl rfl)
  | late asks shut =>
    exact .inl (.stops rfl rfl hleaves (hnone asks.joining?_eq))
  | shuts asks first ended =>
    refine .inr ⟨asks, first, rfl, rfl, fun i hi => ?_, ?_, fun _ => ended⟩
    · exact (List.mem_cons.1 (hleaves i hi)).symm
    · exact fun a' h => absurd h.symm (Option.some_ne_none a')
  | joins asks first joining =>
    refine .inr ⟨asks, first, rfl, rfl, fun i hi => (List.mem_cons.1 hi).symm, ?_, ?_⟩
    · exact fun a' h => Option.some.inj h ▸ joining
    · exact fun h => absurd h (Option.some_ne_none _)
  | waitsOn joining joining' => exact .inl (.goesOn rfl rfl rfl (joining'.trans joining.symm))
  | joined joining ended =>
    refine .inl (.stops rfl rfl hleaves fun ids h => ?_)
    rw [← Option.some.inj (joining.symm.trans h)]
    exact ended

end Lives

/-! ## Turns -/

namespace World
variable {now : Nat} {id : ProcessId} {w w' w'' : World ω} {a a' : Activity} {turn : WorldTurn ω}
variable {alarms : List Nat} {woken : List ProcessId} {o : Outcome}

structure Akin (w w' : World ω) : Prop where
  lifecycle : w'.lifecycle = w.lifecycle
  outcomes : w'.outcomes = w.outcomes
  signing : w'.gateway.signatures.config = w.gateway.signatures.config

theorem Akin.refl (w : World ω) : Akin w w := ⟨rfl, rfl, rfl⟩

theorem Akin.trans (h : Akin w w') (h' : Akin w' w'') : Akin w w'' :=
  ⟨h'.lifecycle.trans h.lifecycle, h'.outcomes.trans h.outcomes, h'.signing.trans h.signing⟩

structure Lived (id : ProcessId) (w : World ω) (a : Activity) (turn : WorldTurn ω) : Prop where
  lives : Lives id w.lifecycle a turn.shared.lifecycle turn.process
  signing : turn.shared.gateway.signatures.config = w.gateway.signatures.config
  waits : ∀ a', turn.process = some a' → turn.shared.outcomes = w.outcomes
  ends : turn.process = none → ∃ now o, turn.shared.outcomes = w.outcomes ++ [(id, now, o)]

theorem Lived.after (h : Lived id w' a turn) (akin : Akin w w') : Lived id w a turn := by
  obtain ⟨lives, signing, waits, ends⟩ := h
  rw [akin.lifecycle] at lives
  rw [akin.outcomes] at waits ends
  exact ⟨lives, signing.trans akin.signing, waits, ends⟩

/-- A turn leaves an outcome for its own activity, when that ends in it. -/
theorem Lived.lookup_outcomes (h : Lived id w a turn) {i : ProcessId}
    (other : i ≠ id ∨ turn.process ≠ none) :
    turn.shared.outcomes.lookup i = w.outcomes.lookup i := by
  cases hprocess : turn.process with
  | some a' => rw [h.waits a' hprocess]
  | none =>
    obtain ⟨now, o, houtcomes⟩ := h.ends hprocess
    have hne : i ≠ id := other.resolve_right fun hne => hne hprocess
    rw [houtcomes, List.lookup_append, List.lookup_cons, beq_eq_false_iff_ne.2 hne]
    exact Option.or_none

theorem lived_waitOn (lives : Lives id w.lifecycle a w'.lifecycle (some a'))
    (outcomes : w'.outcomes = w.outcomes)
    (signing : w'.gateway.signatures.config = w.gateway.signatures.config) :
    Lived id w a (w'.waitOn a' alarms woken) where
  lives := lives
  signing := signing
  waits _ _ := outcomes
  ends h := by cases h

theorem lived_finish (lives : Lives id w.lifecycle a w'.lifecycle none)
    (outcomes : w'.outcomes = w.outcomes)
    (signing : w'.gateway.signatures.config = w.gateway.signatures.config) :
    Lived id w a (w'.finish now id o woken) where
  lives := lives
  signing := signing
  waits _ h := by cases h
  ends _ := by
    refine ⟨now, o, ?_⟩
    rw [← outcomes]
    rfl

theorem Akin.call (akin : Akin w w') (call : a.isCall = true) (call' : a'.isCall = true) :
    Lived id w a (w'.waitOn a' alarms woken) :=
  lived_waitOn (akin.lifecycle ▸ .call call call') akin.outcomes akin.signing

theorem Akin.called (akin : Akin w w') (call : a.isCall = true) :
    Lived id w a (w'.finish now id o woken) :=
  lived_finish (akin.lifecycle ▸ .called call) akin.outcomes akin.signing

theorem Akin.works (akin : Akin w w') {task : BackgroundTask} {owned : Bool}
    {stage stage' : LoopStage} (fits : stage'.Fits task) :
    Lived id w (.loop task owned stage) (w'.waitOn (.loop task owned stage') alarms woken) :=
  lived_waitOn (akin.lifecycle ▸ .works fits) akin.outcomes akin.signing

theorem akin_withView (w : World ω) (v : ChainView ω) : Akin w (w.withView v) := ⟨rfl, rfl, rfl⟩

theorem akin_withRelays {r : Relays ω} (h : r.signatures.config = w.gateway.signatures.config) :
    Akin w (w.withRelays r) :=
  ⟨rfl, rfl, h⟩

theorem akin_withSignatures {s : SignatureCache.Step}
    (h : s.cache.config = w.gateway.signatures.config) : Akin w (w.withSignatures s) :=
  ⟨rfl, rfl, h⟩

theorem akin_noteHeight (w : World ω) (result : Except ChainError Nat) :
    Akin w (w.noteHeight result) := by
  cases result <;> exact ⟨rfl, rfl, rfl⟩

/-! ### Permits and signatures -/

theorem awaitPermit_lived {timeout timeout' deadline : Nat} {deadline' : Option Nat} :
    Lived id w (.acquire timeout' deadline') (awaitPermit now id timeout deadline w) := by
  unfold awaitPermit
  dsimp only
  split
  · exact (akin_withRelays rfl).called rfl
  · split
    · exact (akin_withRelays rfl).called rfl
    · exact (akin_withRelays rfl).call rfl rfl

theorem runAcquire_lived {timeout : Nat} {deadline : Option Nat} :
    Lived id w (.acquire timeout deadline) (runAcquire now id timeout deadline w) := by
  cases deadline with
  | some deadline => exact awaitPermit_lived
  | none => exact awaitPermit_lived.after ⟨rfl, rfl, rfl⟩

theorem holdOn_lived {duration till : Nat} {stage : HoldStage} :
    Lived id w (.hold duration stage) (holdOn now id duration till w) := by
  unfold holdOn
  split
  · exact (akin_withRelays rfl).called rfl
  · exact (Akin.refl w).call rfl rfl

theorem awaitHold_lived {duration : Nat} {stage : HoldStage} :
    Lived id w (.hold duration stage) (awaitHold now id duration w) := by
  unfold awaitHold
  dsimp only
  split
  · exact holdOn_lived.after (akin_withRelays rfl)
  · exact (akin_withRelays rfl).call rfl rfl

theorem runHold_lived {duration : Nat} {stage : HoldStage} :
    Lived id w (.hold duration stage) (runHold now id duration stage w) := by
  cases stage with
  | starting => exact awaitHold_lived.after ⟨rfl, rfl, rfl⟩
  | waiting => exact awaitHold_lived
  | holding till => exact holdOn_lived

theorem awaitComputation_lived {plan : SignaturePlan} {stage : SignatureStage}
    {answer : Pending (Except SignerError SignedRelay)} :
    Lived id w (.signature plan stage) (awaitComputation now id plan woken answer w) := by
  unfold awaitComputation
  split
  · exact (akin_withSignatures SignatureCache.config_finish).called rfl
  · exact (Akin.refl w).call rfl rfl

theorem afterSignatureStep_lived {plan : SignaturePlan} {stage : SignatureStage}
    {s : SignatureCache.Step} (h : s.cache.config = w.gateway.signatures.config) :
    Lived id w (.signature plan stage) (afterSignatureStep now id plan s w) := by
  unfold afterSignatureStep
  dsimp only
  split
  · exact (akin_withSignatures h).called rfl
  · exact (akin_withSignatures h).call rfl rfl
  · exact awaitComputation_lived.after ⟨rfl, rfl, h⟩

theorem runSignature_lived {plan : SignaturePlan} {stage : SignatureStage} :
    Lived id w (.signature plan stage) (runSignature now id plan stage w) := by
  cases stage with
  | starting => exact afterSignatureStep_lived SignatureCache.config_begin
  | sharing => exact afterSignatureStep_lived SignatureCache.config_resume
  | computing answer => exact awaitComputation_lived

/-! ### Shutdown -/

theorem join_lived {ids : List ProcessId} {again : List ProcessId → Activity}
    (outcomes : w'.outcomes = w.outcomes)
    (signing : w'.gateway.signatures.config = w.gateway.signatures.config)
    (stays : Lives id w.lifecycle a w'.lifecycle (some (again ids)))
    (ends : w'.lifecycle.allEnded ids = true →
      Lives id w.lifecycle a (w'.lifecycle.leave id) none) :
    Lived id w a (join now id ids again woken w') := by
  unfold join
  split
  · exact lived_finish (ends ‹_›) outcomes signing
  · exact lived_waitOn stays outcomes signing

theorem joinOn_lived {ids : List ProcessId} {again : List ProcessId → Activity}
    (joining : a.joining? = some ids) (joining' : (again ids).joining? = some ids) :
    Lived id w a (join now id ids again woken w) :=
  join_lived rfl rfl (.waitsOn joining joining') (.joined joining)

theorem startShutdown_lived {again : List ProcessId → Activity} (asks : a.Asks)
    (h : ∀ ids, (again ids).joining? = some ids) :
    Lived id w a (startShutdown now id again w) := by
  unfold startShutdown
  dsimp only
  split
  · -- With nothing to join, the call ends in this turn.
    exact lived_finish (.late asks ‹_›) rfl rfl
  · have hfirst : w.lifecycle.shutdown = false := Bool.eq_false_iff.2 ‹_›
    exact join_lived rfl rfl (.joins asks hfirst (h _)) fun ended => .shuts asks hfirst ended

theorem runShutdown_lived {joining : Option (List ProcessId)} :
    Lived id w (.shutdown joining) (runShutdown now id joining w) := by
  unfold runShutdown
  cases joining with
  | none => exact startShutdown_lived .shutdown fun _ => rfl
  | some ids => exact joinOn_lived rfl rfl

theorem runWaitForShutdown_lived {subscribed : Bool} {joining : Option (List ProcessId)} :
    Lived id w (.waitForShutdown subscribed joining) (runWaitForShutdown now id subscribed joining w) := by
  unfold runWaitForShutdown
  cases joining with
  | some ids => exact joinOn_lived rfl rfl
  | none =>
    dsimp only
    cases subscribed with
    | false => exact lived_waitOn .subscribes rfl rfl
    | true =>
      rw [if_pos rfl]
      split
      · exact startShutdown_lived .waitForShutdown fun _ => rfl
      · exact lived_waitOn .waits rfl rfl

theorem runListen_lived : Lived id w .listen (runListen now id w) := by
  unfold runListen
  split
  · exact lived_finish .heard rfl rfl
  · exact lived_waitOn .listens rfl rfl

/-! ### Background tasks -/

section Loop
variable {task : BackgroundTask} {owned : Bool} {stage : LoopStage} {ticks : Interval}

theorem endLoop_lived : Lived id w (.loop task owned stage) (endLoop now id w) :=
  lived_finish .stops rfl rfl

theorem idle_lived (akin : Akin w w') :
    Lived id w (.loop task owned stage) (idle now id task owned ticks woken w') :=
  akin.works trivial

theorem loopRefresh_lived {s : ChainView ω × RefreshProgress} :
    Lived id w (.loop .refresh owned stage) (loopRefresh now id owned ticks w s) := by
  unfold loopRefresh
  dsimp only
  split
  · exact (akin_withView w s.1).works rfl
  · exact idle_lived (akin_withView w s.1)

theorem loopPoll_lived {s : World ω × Pending (Except ChainError Nat) × Nat} (akin : Akin w s.1) :
    Lived id w (.loop .rollover owned stage) (loopPoll now id owned ticks s) := by
  obtain ⟨w', answer, deadline⟩ := s
  unfold loopPoll
  dsimp only
  split
  · exact idle_lived (akin.trans (akin_noteHeight w' _))
  · exact akin.works rfl

variable [Collaborators ω]

/-- The work of a tick, whether or not a message has come. -/
theorem takeTick_lived : Lived id w (.loop task owned stage) (takeTick now id task owned ticks w) := by
  cases task with
  | refresh => exact loopRefresh_lived
  | rollover => exact loopPoll_lived (s := w.askHeight now) ⟨rfl, rfl, rfl⟩
  | sanctionSweep => exact idle_lived ⟨rfl, rfl, rfl⟩
  | signatureSweep => exact idle_lived ⟨rfl, rfl, rfl⟩

theorem runIdle_lived : Lived id w (.loop task owned stage) (runIdle now id task owned ticks w) := by
  unfold runIdle
  split
  · exact endLoop_lived
  · split
    · exact takeTick_lived
    · exact idle_lived (.refl w)

end Loop

variable [Collaborators ω]

theorem runLoop_lived {task : BackgroundTask} {owned : Bool} {stage : LoopStage}
    (fits : stage.Fits task) :
    Lived id w (.loop task owned stage) (runLoop now id task owned stage w) := by
  cases stage with
  | starting => exact runIdle_lived
  | idle ticks => exact runIdle_lived
  | refreshing ticks stage =>
    cases fits
    exact loopRefresh_lived
  | polling ticks answer deadline =>
    cases fits
    exact loopPoll_lived (s := (w, answer, deadline)) (.refl w)

/-! ### Other calls -/

omit [Collaborators ω] in
theorem afterRefresh_lived {stage : Option RefreshStage} {s : ChainView ω × RefreshProgress} :
    Lived id w (.refresh stage) (afterRefresh now id w s) := by
  unfold afterRefresh
  dsimp only
  split
  · exact (akin_withView w s.1).call rfl rfl
  · exact (akin_withView w s.1).called rfl

theorem runRefresh_lived {stage : Option RefreshStage} :
    Lived id w (.refresh stage) (runRefresh now id stage w) := by
  cases stage <;> exact afterRefresh_lived

theorem runQuery_lived {target : QueryTarget} {stage : Option QueryStage} :
    Lived id w (.query target stage) (runQuery now id target stage w) := by
  unfold runQuery
  dsimp only
  split
  · exact (akin_withView w _).call rfl rfl
  · exact (akin_withView w _).called rfl

theorem runPoll_lived {waiting : Option (Pending (Except ChainError Nat) × Nat)} :
    Lived id w (.poll waiting) (runPoll now id waiting w) := by
  have hpoll : ∀ (w' : World ω) (asked : Pending (Except ChainError Nat) × Nat), Akin w w' →
      Lived id w (.poll waiting) (runPoll now id (some asked) w') := by
    intro w' asked akin
    unfold runPoll
    dsimp only
    split
    · exact (akin.trans (akin_noteHeight w' _)).called rfl
    · exact akin.call rfl rfl
  cases waiting with
  | some asked => exact hpoll w asked (.refl w)
  | none => exact hpoll (w.askHeight now).1 (w.askHeight now).2 ⟨rfl, rfl, rfl⟩

omit [Collaborators ω] in
theorem afterDispatch_lived {plan : DispatchPlan} {running : Option Dispatch}
    {s : RequestContext × Relays ω × DispatchProgress}
    (h : s.2.1.signatures.config = w.gateway.signatures.config) :
    Lived id w (.dispatch plan running) (afterDispatch now id plan w s) := by
  obtain ⟨c, r, progress⟩ := s
  unfold afterDispatch
  dsimp only
  split
  · exact Akin.called ⟨rfl, rfl, h⟩ rfl
  · split
    · exact Akin.called ⟨rfl, rfl, (Attempt.config_drop id r _).trans h⟩ rfl
    · exact Akin.call ⟨rfl, rfl, h⟩ rfl rfl

theorem runDispatch_lived {plan : DispatchPlan} {running : Option Dispatch} :
    Lived id w (.dispatch plan running) (runDispatch now id plan running w) := by
  unfold runDispatch
  split
  · exact (Akin.refl w).call rfl rfl
  · split
    · exact (Akin.refl w).called rfl
    · cases running with
      | none => exact afterDispatch_lived Dispatch.config_begin
      | some d => exact afterDispatch_lived Dispatch.config_resume

/-- What every turn of an activity does. -/
theorem run_lived (now : Nat) (id : ProcessId) {a : Activity} (fits : a.Fits) (w : World ω) :
    Lived id w a (run now id a w) := by
  cases a with
  | refresh stage => exact runRefresh_lived
  | query target stage => exact runQuery_lived
  | poll waiting => exact runPoll_lived
  | dispatch plan running => exact runDispatch_lived
  | acquire timeout deadline => exact runAcquire_lived
  | hold duration stage => exact runHold_lived
  | signature plan stage => exact runSignature_lived
  | loop task owned stage => exact runLoop_lived fits
  | listen => exact runListen_lived
  | shutdown joining => exact runShutdown_lived
  | waitForShutdown subscribed joining => exact runWaitForShutdown_lived

omit [Collaborators ω] in
/-- An activity that is dropped leaves the lifecycle as it is. -/
theorem akin_dropActivity (id : ProcessId) (a : Activity) (w : World ω) :
    Akin w (w.dropActivity id a).1 := by
  have hcancel : (w.gateway.relays.cancelSignature id).signatures.config =
      w.gateway.signatures.config := SignatureCache.config_cancel
  unfold dropActivity
  dsimp only
  split
  · exact akin_withRelays (Attempt.config_drop id _ _)
  · exact akin_withRelays rfl
  · exact akin_withRelays rfl
  · exact akin_withRelays rfl
  · exact akin_withRelays hcancel
  · exact akin_withRelays hcancel
  · exact akin_withRelays rfl

end World
end RelayGateway
