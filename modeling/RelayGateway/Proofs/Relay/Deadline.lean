import RelayGateway.Proofs.Endpoint
import RelayGateway.Proofs.Relay.Conversation
import RelayGateway.Proofs.Relay.Relaying

/-! # Deadlines

An attempt that runs into its deadline has waited in vain for something that had not come by then. In a
run that keeps time no turn is later than the deadline of its attempt, because the deadline itself is
among what the attempt waits for. The attempts of a dispatch share the deadline of the whole request.
-/
namespace RelayGateway
variable {ω : Type}

/-! ## Lapses -/

namespace RelayError

def IsLapse (e : RelayError) : Prop := e = .timeout ∨ e = .concurrencyLimit

end RelayError

namespace Attempt
variable {a : Attempt} {now : Nat} {id : ProcessId} {r r' : Relays ω} {x : Relays ω × Phase}
variable {e : RelayError}

theorem request?_not_lapse (bad : a.request? = .error e) : ¬ e.IsLapse := by
  unfold request? at bad
  split at bad
  · cases bad
    rintro (h | h) <;> cases h
  · dsimp only at bad
    split at bad
    · cases bad
      rintro (h | h) <;> cases h
    · split at bad
      · cases bad
        rintro (h | h) <;> cases h
      · cases bad

variable [Collaborators ω]

/-- The attempt came to wait for something, in the turn that began with `x`, and it had not come at the
deadline. Had it come by then, the deadline would not have counted. -/
structure Lapsed (a : Attempt) (now : Nat) (id : ProcessId) (x : Relays ω × Phase) (r' : Relays ω)
    (e : RelayError) : Prop where
  due : a.deadline ≤ now
  waited : ∃ r stage, Relation.ReflTransGen (a.Move now id) x (r, .at stage) ∧
    stage.Unready now id r ∧ r' = drop id r stage ∧ e = stage.lapse

theorem Move.lapsed {p : Phase} (move : a.Move now id (r, p) (r', .ended (.error e)))
    (lapse : e.IsLapse) : ∃ stage, p = .at stage ∧ a.deadline ≤ now ∧ stage.Unready now id r ∧
      r' = drop id r stage ∧ e = stage.lapse := by
  cases move with
  | refuse early bad => exact absurd lapse (request?_not_lapse bad)
  | unsigned => rcases lapse with h | h <;> cases h
  | unposted ready => rcases lapse with h | h <;> cases h
  | invalid ready => rcases lapse with h | h <;> cases h
  | lapse due unready => exact ⟨_, rfl, due, unready, rfl, rfl⟩

theorem Turned.lapsed {p : Phase} (h : a.Turned now id (r, p) (r', .done (.error e)))
    (running : ∀ result, p ≠ .ended result) (lapse : e.IsLapse) : a.Lapsed now id (r, p) r' e := by
  rcases Relation.ReflTransGen.cases_tail h.moves with heq | ⟨y, hmoves, hmove⟩
  · exact absurd (congrArg Prod.snd heq).symm (running _)
  · obtain ⟨stage, hstage, due, unready, hdrop, he⟩ := hmove.lapsed lapse
    refine ⟨due, y.1, stage, ?_, unready, hdrop, he⟩
    rwa [← hstage]

end Attempt

/-! ## Turns in time -/

namespace Leg
variable [Collaborators ω] {leg : Leg ω} {now : Nat} {id : ProcessId}
variable {result : Except RelayError RelayResponse} {e : RelayError}

theorem turn_of_after {a : Attempt} {turns : List (AttemptTurn ω)} {t : Nat} {r : Relays (Ledger ω)}
    {p : Phase} {s : Relays (Ledger ω) × AttemptProgress} (running : ∀ result, p ≠ .ended result)
    (turned : a.Turned t id (r, p) s) (ended : (after a turns t r s).standing = .ended now result) :
    ∃ turn ∈ (after a turns t r s).turns, turn.now = now ∧
      ∃ p, (∀ result, p ≠ Phase.ended result) ∧
        a.Turned now id (turn.before, p) (turn.after, .done result) := by
  obtain ⟨r', progress⟩ := s
  cases progress with
  | waiting stage => cases ended
  | done result' =>
    cases ended
    exact ⟨_, List.mem_append_right _ (List.mem_singleton_self _), rfl, p, running, turned⟩

theorem Ran.turn_of_ended (h : leg.Ran id) (ended : leg.standing = .ended now result) :
    ∃ turn ∈ leg.turns, turn.now = now ∧ ∃ p, (∀ result, p ≠ Phase.ended result) ∧
      leg.attempt.Turned now id (turn.before, p) (turn.after, .done result) := by
  cases h with
  | start a t r => exact turn_of_after (p := .fresh) (fun _ => nofun) (a.start_turned t id r) ended
  | @resume leg h stage running t r =>
    exact turn_of_after (p := .at stage) (fun _ => nofun) (leg.attempt.resume_turned t id r stage) ended
  | drop h running t r => cases ended

theorem Ran.lapsed (h : leg.Ran id) (ended : leg.standing = .ended now (.error e))
    (lapse : e.IsLapse) : ∃ turn ∈ leg.turns, turn.now = now ∧
      ∃ p, leg.attempt.Lapsed now id (turn.before, p) turn.after e := by
  obtain ⟨turn, hturn, hnow, p, running, turned⟩ := h.turn_of_ended ended
  exact ⟨turn, hturn, hnow, p, turned.lapsed running lapse⟩

def InTime (leg : Leg ω) : Prop := ∀ turn ∈ leg.turns, turn.now ≤ leg.attempt.deadline

omit [Collaborators ω] in
theorem InTime.after {a : Attempt} {turns : List (AttemptTurn ω)} {r : Relays (Ledger ω)}
    {s : Relays (Ledger ω) × AttemptProgress} (h : ∀ turn ∈ turns, turn.now ≤ a.deadline)
    (hnow : now ≤ a.deadline) : (Leg.after a turns now r s).InTime := by
  intro turn hturn
  rcases List.mem_append.1 hturn with hold | hnew
  · exact h turn hold
  · rwa [List.mem_singleton.1 hnew]

theorem InTime.start {a : Attempt} {r : Relays (Ledger ω)} (hnow : now ≤ a.deadline) :
    (Leg.start a now id r).InTime := by
  intro turn hturn
  rw [List.mem_singleton.1 hturn]
  exact hnow

theorem InTime.goes {payload : RelayPayload} {deadline : Nat} {retry : Option Endpoint}
    {s : Relays (Ledger ω) × AttemptProgress} {legs : List (Leg ω)} {r' : Relays (Ledger ω)}
    {progress : DispatchProgress} (h : leg.InTime) (hnow : now ≤ deadline)
    (goes : Goes now id payload deadline leg retry s legs r' progress) : ∀ leg ∈ legs, leg.InTime := by
  cases goes with
  | on last =>
    intro leg' hleg
    rwa [List.mem_singleton.1 hleg]
  | further attempt =>
    intro leg' hleg
    rcases List.mem_cons.1 hleg with rfl | hleg
    · exact .start (attempt ▸ hnow)
    · rwa [List.mem_singleton.1 hleg]

theorem InTime.ended_le (h : leg.InTime) (ran : leg.Ran id) (ended : leg.standing = .ended now result) :
    now ≤ leg.attempt.deadline := by
  obtain ⟨turn, hturn, rfl, -⟩ := ran.turn_of_ended ended
  exact h turn hturn

end Leg

theorem Dispatch.deadline_first (config : RelayConfig) (now : Nat) (payload : RelayPayload)
    (c : RequestContext) (endpoint : Endpoint) :
    (first config now payload c endpoint).1.deadline ≤ now + timeoutOf config payload ∧
      now ≤ (first config now payload c endpoint).1.deadline := by
  unfold first
  dsimp only
  split
  · exact ⟨Nat.add_le_add_left (Nat.min_le_left ..) _, Nat.le_add_right ..⟩
  · exact ⟨Nat.le_refl _, Nat.le_add_right ..⟩

namespace Delivery
variable {config : RelayConfig} {now : Nat} {id : ProcessId} {x : Delivery ω} {d : Dispatch}

/-- The deadline of the first attempt is that of the request, or earlier when there is an endpoint to turn
to. -/
theorem first_deadline (config : RelayConfig) (x : Delivery ω) (endpoint : Endpoint) :
    (x.first config endpoint).1.deadline ≤ x.deadline config ∧
      x.startedAt ≤ (x.first config endpoint).1.deadline := by
  unfold first deadline
  exact Dispatch.deadline_first ..

/-- In rollover the first attempt at a protocol endpoint has the time of the wait, at most. -/
theorem first_deadline_of_fallback {endpoint fallback : Endpoint}
    (protocol : endpoint.isFallback = false) (hfallback : x.origin.rolloverFallback? = some fallback) :
    (x.first config endpoint).1.deadline =
      x.startedAt + min (Dispatch.timeoutOf config x.payload) config.rolloverFallbackWait := by
  unfold first Dispatch.first
  rw [protocol, hfallback]
  rfl

theorem first_endpoint (config : RelayConfig) (x : Delivery ω) (endpoint : Endpoint) :
    (x.first config endpoint).1.endpoint = endpoint := by
  unfold first Dispatch.first
  dsimp only
  split <;> rfl

/-- Every turn so far was in time, and so will be one that is taken now. -/
structure InTime (now : Nat) (x : Delivery ω) : Prop where
  legs : ∀ leg ∈ x.legs, leg.InTime
  running : ∀ d, x.standing = .running d → now ≤ d.attempt.deadline

theorem Shape.leg_deadline [Collaborators ω] (h : Shape config id x) {leg : Leg ω}
    (hleg : leg ∈ x.legs) : leg.attempt.deadline ≤ x.deadline config := by
  rcases (h.leg_cases hleg).2 with ⟨endpoint, attempt⟩ | ⟨fallback, t, attempt⟩
  · rw [attempt]
    exact (first_deadline config x endpoint).1
  · rw [attempt]
    exact Nat.le_refl _

namespace InTime
variable [Collaborators ω] {r : Relays (Ledger ω)}

omit [Collaborators ω] in
theorem of_rests {kept : Relays (Ledger ω) → Attempt → Phase → Prop}
    (h : Rests kept now id r x.standing) (legs : ∀ leg ∈ x.legs, leg.InTime) : InTime now x where
  legs := legs
  running d running := by
    rw [running] at h
    cases h with
    | running d holds early unready => exact Nat.le_of_lt early

theorem begin (config : RelayConfig) (now : Nat) (id : ProcessId) (payload : RelayPayload)
    (c : RequestContext) (r : Relays (Ledger ω)) : InTime now (begin config now id payload c r).1 := by
  have hlegs : ∀ leg ∈ (Delivery.begin config now id payload c r).1.legs, leg.InTime := by
    cases chosen : c.dispatchable with
    | error e =>
      unfold Delivery.begin
      rw [chosen]
      exact fun leg hleg => by cases hleg
    | ok endpoint =>
      have hfirst := (first_deadline config (Delivery.begin config now id payload c r).1 endpoint).2
      unfold Delivery.begin
      rw [chosen]
      exact Leg.InTime.goes (.start hfirst) (Nat.le_add_right ..)
        (Leg.goes now id payload _ (Leg.start _ now id r) _ c _)
  rcases begin_rests (r := r) (fun _ _ _ => True) (fun _ _ => trivial) (fun _ => trivial)
      (fun _ => trivial) config payload c with ⟨-, e, hended⟩ | hrests
  · refine ⟨hlegs, fun d running => ?_⟩
    cases running.symm.trans hended
  · exact of_rests hrests hlegs

theorem resume (h : InTime now x) (shape : Shape config id x) (running : x.standing = .running d)
    (r : Relays (Ledger ω)) : InTime now (x.resume d now id r).1 := by
  refine of_rests (resume_rests (fun _ _ _ => True) (fun _ _ => trivial) (fun _ => trivial) x trivial) ?_
  obtain ⟨leg, earlier, legs, attempt, -, -, hdeadline⟩ := shape.running running
  have hleg : leg ∈ x.legs := legs ▸ List.mem_cons_self
  have hnow : now ≤ leg.attempt.deadline := attempt ▸ h.running d running
  rw [legs_resume legs now id r]
  intro leg' hleg'
  rcases List.mem_append.1 hleg' with hnew | hold
  · refine Leg.InTime.goes (.after (h.legs leg hleg) hnow) ?_
      (Leg.goes now id d.payload _ (leg.resume now id r d.stage) d.retry x.context _) leg' hnew
    rw [hdeadline]
    exact Nat.le_trans hnow (shape.leg_deadline hleg)
  · exact h.legs leg' (legs ▸ List.mem_cons_of_mem _ hold)

theorem drop (h : InTime now x) (shape : Shape config id x) (running : x.standing = .running d)
    (r : Relays (Ledger ω)) : InTime now (x.drop d now id r).1 := by
  obtain ⟨leg, earlier, legs, attempt, -, -, -⟩ := shape.running running
  refine ⟨?_, fun d' running' => by cases running'⟩
  rw [legs_drop legs now id r]
  intro leg' hleg'
  rcases List.mem_cons.1 hleg' with rfl | hold
  · intro turn hturn
    rcases List.mem_append.1 hturn with hold | hnew
    · exact h.legs leg (legs ▸ List.mem_cons_self) turn hold
    · rw [List.mem_singleton.1 hnew]
      exact attempt ▸ h.running d running
  · exact h.legs leg' (legs ▸ List.mem_cons_of_mem _ hold)

end InTime

theorem Shape.ended_le [Collaborators ω] (h : Shape config id x) (legs : ∀ leg ∈ x.legs, leg.InTime)
    {t : Nat} {result : Except RelayError RelayResponse} (ended : x.standing = .ended t result) :
    t ≤ x.deadline config := by
  rcases h.ended ended with ⟨rfl, -⟩ | ⟨leg, earlier, heq, ran, leg_ended⟩
  · exact Nat.le_add_right ..
  · have hleg : leg ∈ x.legs := heq ▸ List.mem_cons_self
    exact Nat.le_trans ((legs leg hleg).ended_le ran leg_ended) (h.leg_deadline hleg)

end Delivery

namespace Relaying
variable [Collaborators ω] {config : RelayConfig} {signatures : SignatureCacheConfig}
variable {t : Relaying ω} {id : ProcessId} {x : Delivery ω} {d : Dispatch}

omit [Collaborators ω] in
theorem deadline_mem_alarms (running : x.standing = .running d) :
    d.attempt.deadline ∈ (Participant.delivery x).alarms := by
  unfold Participant.alarms
  dsimp only
  rw [running]
  exact List.mem_append_right _ (List.mem_singleton_self _)

theorem ReachedInTime.inTime (h : ReachedInTime config signatures t) :
    ∀ id x, t.Delivers id x → x.InTime t.now := by
  induction h with
  | start outside => exact fun id x delivers => absurd delivers not_delivers_start
  | @act t t' h act ih =>
    intro id x delivers
    rw [act.acted.now_eq]
    obtain ⟨-, ran⟩ := h.reached.ran
    cases act.acted.change delivers with
    | none found => exact ih id x found
    | begin c payload => exact .begin ..
    | resume found running => exact (ih id _ found).resume (ran id _ found).shape running _
    | drop found running => exact (ih id _ found).drop (ran id _ found).shape running _
  | @wait t h now idle ih =>
    intro id x delivers
    refine ⟨(ih id x delivers).legs, fun d running => ?_⟩
    exact idle.early id _ delivers _ (deadline_mem_alarms running)

end Relaying
end RelayGateway
