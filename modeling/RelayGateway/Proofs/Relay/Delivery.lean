import RelayGateway.Proofs.Relay.Ledger
import RelayGateway.Proofs.Relay.Moves

/-! # The legs of a dispatch

A dispatch makes one attempt, in rollover perhaps a second. A leg is an attempt with all its turns, each
with the relays before and after it; between two turns anything may happen to the relays. A delivery is
a dispatch with its legs. The legs are kept beside the dispatch and change nothing in it.
-/
namespace RelayGateway
variable {ω : Type}

inductive Standing (α : Type) where
  | running (x : α)
  | ended (now : Nat) (result : Except RelayError RelayResponse)
  | dropped

def Standing.running? {α : Type} : Standing α → Option α
  | running x => some x
  | _ => none

def AttemptProgress.standing (now : Nat) : AttemptProgress → Standing AttemptStage
  | .waiting stage => .running stage
  | .done result => .ended now result

def DispatchProgress.standing (now : Nat) : DispatchProgress → Standing Dispatch
  | .waiting d => .running d
  | .done result => .ended now result

structure AttemptTurn (ω : Type) where
  now : Nat
  before : Relays (Ledger ω)
  after : Relays (Ledger ω)

def AttemptTurn.exchanges (t : AttemptTurn ω) : List Exchange := t.before.since t.after

structure Leg (ω : Type) where
  attempt : Attempt
  turns : List (AttemptTurn ω)
  standing : Standing AttemptStage

namespace Leg

def exchanges (leg : Leg ω) : List Exchange := leg.turns.flatMap AttemptTurn.exchanges

def after (a : Attempt) (turns : List (AttemptTurn ω)) (now : Nat) (r : Relays (Ledger ω))
    (s : Relays (Ledger ω) × AttemptProgress) : Leg ω :=
  ⟨a, turns ++ [⟨now, r, s.1⟩], s.2.standing now⟩

def drop (leg : Leg ω) (now : Nat) (id : ProcessId) (r : Relays (Ledger ω)) (stage : AttemptStage) :
    Leg ω :=
  ⟨leg.attempt, leg.turns ++ [⟨now, r, Attempt.drop id r stage⟩], .dropped⟩

variable [Collaborators ω]

def start (a : Attempt) (now : Nat) (id : ProcessId) (r : Relays (Ledger ω)) : Leg ω :=
  after a [] now r (a.start now id r)

def resume (leg : Leg ω) (now : Nat) (id : ProcessId) (r : Relays (Ledger ω)) (stage : AttemptStage) :
    Leg ω :=
  after leg.attempt leg.turns now r (leg.attempt.resume now id r stage)

inductive Ran (id : ProcessId) : Leg ω → Prop
  | start (a : Attempt) (now : Nat) (r : Relays (Ledger ω)) : Ran id (start a now id r)
  | resume {leg : Leg ω} (h : Ran id leg) {stage : AttemptStage} (running : leg.standing = .running stage)
      (now : Nat) (r : Relays (Ledger ω)) : Ran id (leg.resume now id r stage)
  | drop {leg : Leg ω} (h : Ran id leg) {stage : AttemptStage} (running : leg.standing = .running stage)
      (now : Nat) (r : Relays (Ledger ω)) : Ran id (leg.drop now id r stage)

/-- The legs after a turn of the attempt `a` that came to `s`: when it has failed and there is an endpoint
to turn to, the attempt there has started in the same turn. The newest comes first. -/
def next (now : Nat) (id : ProcessId) (payload : RelayPayload) (deadline : Nat) (retry : Option Endpoint)
    (leg : Leg ω) (s : Relays (Ledger ω) × AttemptProgress) : List (Leg ω) :=
  match retry, s with
  | some fallback, (r, .done (.error _)) =>
    [start (Dispatch.attemptAt fallback payload now deadline) now id r, leg]
  | _, _ => [leg]

end Leg

structure Delivery (ω : Type) where
  /-- The context as it was handed over. -/
  origin : RequestContext
  context : RequestContext
  payload : RelayPayload
  startedAt : Nat
  /-- The newest comes first. -/
  legs : List (Leg ω)
  standing : Standing Dispatch

namespace Delivery

def first (config : RelayConfig) (x : Delivery ω) (endpoint : Endpoint) : Attempt × Option Endpoint :=
  Dispatch.first config x.startedAt x.payload x.origin endpoint

def deadline (config : RelayConfig) (x : Delivery ω) : Nat :=
  x.startedAt + Dispatch.timeoutOf config x.payload

def drop (x : Delivery ω) (d : Dispatch) (now : Nat) (id : ProcessId) (r : Relays (Ledger ω)) :
    Delivery ω × Relays (Ledger ω) :=
  ({ x with
      legs := x.legs.modifyHead fun leg => leg.drop now id r d.stage
      standing := .dropped }, d.drop id r)

variable [Collaborators ω]

def begin (config : RelayConfig) (now : Nat) (id : ProcessId) (payload : RelayPayload)
    (c : RequestContext) (r : Relays (Ledger ω)) : Delivery ω × Relays (Ledger ω) :=
  let s := Dispatch.begin config now id payload c r
  let legs :=
    match c.dispatchable with
    | .error _ => []
    | .ok endpoint =>
      let (a, retry) := Dispatch.first config now payload c endpoint
      (Leg.start a now id r).next now id payload (now + Dispatch.timeoutOf config payload) retry
        (a.start now id r)
  (⟨c, s.1, payload, now, legs, s.2.2.standing now⟩, s.2.1)

def resume (x : Delivery ω) (d : Dispatch) (now : Nat) (id : ProcessId) (r : Relays (Ledger ω)) :
    Delivery ω × Relays (Ledger ω) :=
  let s := d.resume now id x.context r
  let legs :=
    match x.legs with
    | [] => []
    | leg :: earlier =>
      (leg.resume now id r d.stage).next now id d.payload d.deadline d.retry
        (d.attempt.resume now id r d.stage) ++ earlier
  ({ x with context := s.1, legs, standing := s.2.2.standing now }, s.2.1)

inductive Ran (config : RelayConfig) (id : ProcessId) : Delivery ω → Prop
  | begin (now : Nat) (payload : RelayPayload) (c : RequestContext) (r : Relays (Ledger ω)) :
      Ran config id (begin config now id payload c r).1
  | resume {x : Delivery ω} (h : Ran config id x) {d : Dispatch} (running : x.standing = .running d)
      (now : Nat) (r : Relays (Ledger ω)) : Ran config id (x.resume d now id r).1
  | drop {x : Delivery ω} (h : Ran config id x) {d : Dispatch} (running : x.standing = .running d)
      (now : Nat) (r : Relays (Ledger ω)) : Ran config id (x.drop d now id r).1

/-- Without its legs and the ledger a delivery is the dispatch as it runs. -/
theorem begin_map (config : RelayConfig) (now : Nat) (id : ProcessId) (payload : RelayPayload)
    (c : RequestContext) (r : Relays (Ledger ω)) :
    (begin config now id payload c r).1.context =
        (Dispatch.begin config now id payload c (r.map Ledger.inner)).1 ∧
      (begin config now id payload c r).2.map Ledger.inner =
        (Dispatch.begin config now id payload c (r.map Ledger.inner)).2.1 ∧
      (begin config now id payload c r).1.standing =
        (Dispatch.begin config now id payload c (r.map Ledger.inner)).2.2.standing now := by
  rw [Dispatch.begin_map Ledger.forgets]
  exact ⟨rfl, rfl, rfl⟩

theorem resume_map (x : Delivery ω) (d : Dispatch) (now : Nat) (id : ProcessId)
    (r : Relays (Ledger ω)) :
    (x.resume d now id r).1.context = (d.resume now id x.context (r.map Ledger.inner)).1 ∧
      (x.resume d now id r).2.map Ledger.inner =
        (d.resume now id x.context (r.map Ledger.inner)).2.1 ∧
      (x.resume d now id r).1.standing =
        (d.resume now id x.context (r.map Ledger.inner)).2.2.standing now := by
  rw [Dispatch.resume_map Ledger.forgets]
  exact ⟨rfl, rfl, rfl⟩

omit [Collaborators ω] in
theorem drop_map (x : Delivery ω) (d : Dispatch) (now : Nat) (id : ProcessId)
    (r : Relays (Ledger ω)) :
    (x.drop d now id r).2.map Ledger.inner = d.drop id (r.map Ledger.inner) :=
  (Attempt.drop_map Ledger.inner id r d.stage).symm

end Delivery

/-! ## Turns -/

def DispatchProgress.of (payload : RelayPayload) (deadline : Nat) (a : Attempt)
    (retry : Option Endpoint) : AttemptProgress → DispatchProgress
  | .waiting stage => .waiting ⟨payload, deadline, a, stage, retry⟩
  | .done result => .done result

namespace Leg
variable [Collaborators ω] {now deadline : Nat} {id : ProcessId} {payload : RelayPayload} {leg : Leg ω}

inductive Goes (now : Nat) (id : ProcessId) (payload : RelayPayload) (deadline : Nat) (leg : Leg ω) :
    Option Endpoint → Relays (Ledger ω) × AttemptProgress → List (Leg ω) → Relays (Ledger ω) →
      DispatchProgress → Prop
  | on {retry : Option Endpoint} {r : Relays (Ledger ω)} {progress : AttemptProgress}
      (last : ∀ e, progress = .done (.error e) → retry = none) :
      Goes now id payload deadline leg retry (r, progress) [leg] r
        (.of payload deadline leg.attempt retry progress)
  | further {fallback : Endpoint} {r : Relays (Ledger ω)} {e : RelayError} {a : Attempt}
      (attempt : a = Dispatch.attemptAt fallback payload now deadline) :
      Goes now id payload deadline leg (some fallback) (r, .done (.error e)) [start a now id r, leg]
        (a.start now id r).1 (.of payload deadline a none (a.start now id r).2)

omit [Collaborators ω] in
theorem afterLast_progress (c : RequestContext) (a : Attempt) (s : Relays (Ledger ω) × AttemptProgress) :
    (Dispatch.afterLast now payload deadline a c s).2 = (s.1, .of payload deadline a none s.2) := by
  obtain ⟨r, progress⟩ := s
  cases progress <;> rfl

theorem goes (now : Nat) (id : ProcessId) (payload : RelayPayload) (deadline : Nat) (leg : Leg ω)
    (retry : Option Endpoint) (c : RequestContext) (s : Relays (Ledger ω) × AttemptProgress) :
    Goes now id payload deadline leg retry s (leg.next now id payload deadline retry s)
      (Dispatch.advance now id payload deadline leg.attempt retry c s).2.1
      (Dispatch.advance now id payload deadline leg.attempt retry c s).2.2 := by
  obtain ⟨r, progress⟩ := s
  cases retry with
  | none =>
    unfold Dispatch.advance
    dsimp only
    rw [afterLast_progress]
    exact .on fun _ _ => rfl
  | some fallback =>
    cases progress with
    | waiting stage => exact .on nofun
    | done result =>
      cases result with
      | ok response => exact .on nofun
      | error e =>
        unfold Dispatch.advance Dispatch.afterFirst
        dsimp only
        rw [afterLast_progress]
        exact .further rfl

end Leg

namespace Delivery
variable [Collaborators ω] {config : RelayConfig} {id : ProcessId} {now : Nat} {payload : RelayPayload}
variable {c : RequestContext} {r : Relays (Ledger ω)} {x : Delivery ω} {d : Dispatch}

inductive Stands (config : RelayConfig) (x : Delivery ω) (leg : Leg ω) (retry : Option Endpoint) : Prop
  | running (stage : AttemptStage) (leg_standing : leg.standing = .running stage)
      (standing : x.standing = .running ⟨x.payload, x.deadline config, leg.attempt, stage, retry⟩)
  | ended (now : Nat) (result : Except RelayError RelayResponse)
      (leg_standing : leg.standing = .ended now result) (standing : x.standing = .ended now result)
      (last : ∀ e, result = .error e → retry = none)
  | dropped (leg_standing : leg.standing = .dropped) (standing : x.standing = .dropped)

/-- A delivery is turned away at once, or makes its first attempt, or has turned from it to a fallback. -/
inductive Shape (config : RelayConfig) (id : ProcessId) (x : Delivery ω) : Prop
  | away (e : RelayError) (closed : x.origin.dispatchable = .error e) (legs : x.legs = [])
      (standing : x.standing = .ended x.startedAt (.error e))
  | first (endpoint : Endpoint) (leg : Leg ω) (chosen : x.origin.dispatchable = .ok endpoint)
      (legs : x.legs = [leg]) (ran : leg.Ran id) (attempt : leg.attempt = (x.first config endpoint).1)
      (stands : x.Stands config leg (x.first config endpoint).2)
  | second (endpoint fallback : Endpoint) (failed leg : Leg ω) (now : Nat) (e : RelayError)
      (chosen : x.origin.dispatchable = .ok endpoint) (legs : x.legs = [leg, failed])
      (failed_ran : failed.Ran id) (ran : leg.Ran id)
      (failed_attempt : failed.attempt = (x.first config endpoint).1)
      (retry : (x.first config endpoint).2 = some fallback)
      (failed_standing : failed.standing = .ended now (.error e))
      (attempt : leg.attempt = Dispatch.attemptAt fallback x.payload now (x.deadline config))
      (stands : x.Stands config leg none)

omit [Collaborators ω] in
theorem Stands.of_progress {leg : Leg ω} {retry : Option Endpoint} {progress : AttemptProgress}
    (leg_standing : leg.standing = progress.standing now)
    (standing : x.standing =
      (DispatchProgress.of x.payload (x.deadline config) leg.attempt retry progress).standing now)
    (last : ∀ e, progress = .done (.error e) → retry = none) : x.Stands config leg retry := by
  cases progress with
  | waiting stage => exact .running stage leg_standing standing
  | done result => exact .ended now result leg_standing standing fun e he => last e (he ▸ rfl)

theorem Shape.of_first {endpoint : Endpoint} {leg : Leg ω} {s : Relays (Ledger ω) × AttemptProgress}
    {legs : List (Leg ω)} {r' : Relays (Ledger ω)} {progress : DispatchProgress}
    (chosen : x.origin.dispatchable = .ok endpoint) (ran : leg.Ran id)
    (attempt : leg.attempt = (x.first config endpoint).1) (leg_standing : leg.standing = s.2.standing now)
    (legs_eq : x.legs = legs) (standing : x.standing = progress.standing now)
    (h : Leg.Goes now id x.payload (x.deadline config) leg (x.first config endpoint).2 s legs r'
      progress) :
    Shape config id x := by
  generalize hretry : (x.first config endpoint).2 = retry at h
  cases h with
  | on last =>
    refine .first endpoint leg chosen legs_eq ran attempt ?_
    rw [hretry]
    exact .of_progress leg_standing standing last
  | @further fallback r e a hattempt =>
    exact .second endpoint fallback leg (.start a now id r) now e chosen legs_eq ran (.start a now r)
      attempt hretry leg_standing hattempt (.of_progress rfl standing fun _ _ => rfl)

theorem Shape.of_second {endpoint fallback : Endpoint} {failed leg : Leg ω} {t : Nat} {e : RelayError}
    {s : Relays (Ledger ω) × AttemptProgress} {legs : List (Leg ω)} {r' : Relays (Ledger ω)}
    {progress : DispatchProgress} (chosen : x.origin.dispatchable = .ok endpoint)
    (failed_ran : failed.Ran id) (ran : leg.Ran id)
    (failed_attempt : failed.attempt = (x.first config endpoint).1)
    (retry : (x.first config endpoint).2 = some fallback)
    (failed_standing : failed.standing = .ended t (.error e))
    (attempt : leg.attempt = Dispatch.attemptAt fallback x.payload t (x.deadline config))
    (leg_standing : leg.standing = s.2.standing now) (legs_eq : x.legs = legs ++ [failed])
    (standing : x.standing = progress.standing now)
    (h : Leg.Goes now id x.payload (x.deadline config) leg none s legs r' progress) :
    Shape config id x := by
  cases h with
  | on last =>
    exact .second endpoint fallback failed leg t e chosen legs_eq failed_ran ran failed_attempt retry
      failed_standing attempt (.of_progress leg_standing standing last)

omit [Collaborators ω] in
theorem Stands.of_running {leg : Leg ω} {retry : Option Endpoint} (stands : x.Stands config leg retry)
    (running : x.standing = .running d) : ∃ stage, leg.standing = .running stage ∧
      d = ⟨x.payload, x.deadline config, leg.attempt, stage, retry⟩ := by
  cases stands with
  | running stage leg_standing standing =>
    cases running.symm.trans standing
    exact ⟨stage, leg_standing, rfl⟩
  | ended t result leg_standing standing last => cases running.symm.trans standing
  | dropped leg_standing standing => cases running.symm.trans standing

omit [Collaborators ω] in
theorem Stands.of_ended {leg : Leg ω} {retry : Option Endpoint} {t : Nat}
    {result : Except RelayError RelayResponse} (stands : x.Stands config leg retry)
    (ended : x.standing = .ended t result) : leg.standing = .ended t result := by
  cases stands with
  | running stage leg_standing standing => cases ended.symm.trans standing
  | ended t' result' leg_standing standing last =>
    cases ended.symm.trans standing
    exact leg_standing
  | dropped leg_standing standing => cases ended.symm.trans standing

omit [Collaborators ω] in
theorem Stands.of_leg_running {leg : Leg ω} {retry : Option Endpoint} {stage : AttemptStage}
    (stands : x.Stands config leg retry) (running : leg.standing = .running stage) :
    x.standing = .running ⟨x.payload, x.deadline config, leg.attempt, stage, retry⟩ := by
  cases stands with
  | running stage' leg_standing standing =>
    cases running.symm.trans leg_standing
    exact standing
  | ended t result leg_standing standing last => cases running.symm.trans leg_standing
  | dropped leg_standing standing => cases running.symm.trans leg_standing

theorem shape_begin (config : RelayConfig) (now : Nat) (id : ProcessId) (payload : RelayPayload)
    (c : RequestContext) (r : Relays (Ledger ω)) :
    Shape config id (begin config now id payload c r).1 := by
  generalize hx : begin config now id payload c r = result
  unfold begin Dispatch.begin at hx
  cases chosen : c.dispatchable with
  | error e =>
    rw [chosen] at hx
    subst hx
    exact .away e chosen rfl rfl
  | ok endpoint =>
    rw [chosen] at hx
    subst hx
    exact .of_first chosen (.start _ now r) rfl rfl rfl rfl
      (Leg.goes now id payload _ (Leg.start _ now id r) _ _ _)

theorem legs_resume {leg : Leg ω} {earlier : List (Leg ω)} (legs : x.legs = leg :: earlier) (now : Nat)
    (id : ProcessId) (r : Relays (Ledger ω)) :
    (x.resume d now id r).1.legs =
      (leg.resume now id r d.stage).next now id d.payload d.deadline d.retry
        (d.attempt.resume now id r d.stage) ++ earlier := by
  unfold resume
  rw [legs]

theorem Shape.resume (h : Shape config id x) (running : x.standing = .running d) (now : Nat)
    (r : Relays (Ledger ω)) : Shape config id (x.resume d now id r).1 := by
  cases h with
  | away e closed legs standing => cases running.symm.trans standing
  | first endpoint leg chosen legs ran attempt stands =>
    obtain ⟨stage, leg_running, rfl⟩ := stands.of_running running
    have hgoes := Leg.goes now id x.payload (x.deadline config) (leg.resume now id r stage)
      (x.first config endpoint).2 x.context (leg.attempt.resume now id r stage)
    exact of_first (x := (x.resume _ now id r).1) chosen (ran.resume leg_running now r) attempt rfl
      ((legs_resume legs now id r).trans (List.append_nil _)) rfl hgoes
  | second endpoint fallback failed leg t e chosen legs failed_ran ran failed_attempt retry
      failed_standing attempt stands =>
    obtain ⟨stage, leg_running, rfl⟩ := stands.of_running running
    have hgoes := Leg.goes now id x.payload (x.deadline config) (leg.resume now id r stage) none
      x.context (leg.attempt.resume now id r stage)
    exact of_second (x := (x.resume _ now id r).1) chosen failed_ran (ran.resume leg_running now r)
      failed_attempt retry failed_standing attempt rfl (legs_resume legs now id r) rfl hgoes

omit [Collaborators ω] in
theorem legs_drop {leg : Leg ω} {earlier : List (Leg ω)} (legs : x.legs = leg :: earlier) (now : Nat)
    (id : ProcessId) (r : Relays (Ledger ω)) :
    (x.drop d now id r).1.legs = leg.drop now id r d.stage :: earlier := by
  unfold drop
  rw [legs]
  rfl

theorem Shape.drop (h : Shape config id x) (running : x.standing = .running d) (now : Nat)
    (r : Relays (Ledger ω)) : Shape config id (x.drop d now id r).1 := by
  cases h with
  | away e closed legs standing => cases running.symm.trans standing
  | first endpoint leg chosen legs ran attempt stands =>
    obtain ⟨stage, leg_running, rfl⟩ := stands.of_running running
    exact .first endpoint (leg.drop now id r stage) chosen (legs_drop legs now id r)
      (ran.drop leg_running now r) attempt (.dropped rfl rfl)
  | second endpoint fallback failed leg t e chosen legs failed_ran ran failed_attempt retry
      failed_standing attempt stands =>
    obtain ⟨stage, leg_running, rfl⟩ := stands.of_running running
    exact .second endpoint fallback failed (leg.drop now id r stage) t e chosen (legs_drop legs now id r)
      failed_ran (ran.drop leg_running now r) failed_attempt retry failed_standing attempt
      (.dropped rfl rfl)

theorem Shape.newest (h : Shape config id x) :
    (∃ e, x.standing = .ended x.startedAt (.error e)) ∨
      ∃ leg earlier retry, x.legs = leg :: earlier ∧ leg.Ran id ∧ x.Stands config leg retry := by
  cases h with
  | away e closed legs standing => exact .inl ⟨e, standing⟩
  | first endpoint leg chosen legs ran attempt stands => exact .inr ⟨leg, [], _, legs, ran, stands⟩
  | second endpoint fallback failed leg t e chosen legs failed_ran ran failed_attempt retry
      failed_standing attempt stands =>
    exact .inr ⟨leg, [failed], _, legs, ran, stands⟩

/-- What runs is the attempt of the newest leg, where that leg stands. -/
theorem Shape.running (h : Shape config id x) (running : x.standing = .running d) :
    ∃ leg earlier, x.legs = leg :: earlier ∧ leg.attempt = d.attempt ∧
      leg.standing = .running d.stage ∧ d.payload = x.payload ∧ d.deadline = x.deadline config := by
  rcases h.newest with ⟨e, standing⟩ | ⟨leg, earlier, retry, legs, -, stands⟩
  · cases running.symm.trans standing
  · obtain ⟨stage, leg_running, rfl⟩ := stands.of_running running
    exact ⟨leg, earlier, legs, rfl, leg_running, rfl, rfl⟩

/-- What a delivery ends with comes from its newest leg, unless it was turned away. -/
theorem Shape.ended (h : Shape config id x) {t : Nat} {result : Except RelayError RelayResponse}
    (ended : x.standing = .ended t result) :
    (t = x.startedAt ∧ ∃ e, result = .error e) ∨
      ∃ leg earlier, x.legs = leg :: earlier ∧ leg.Ran id ∧ leg.standing = .ended t result := by
  rcases h.newest with ⟨e, standing⟩ | ⟨leg, earlier, retry, legs, ran, stands⟩
  · cases ended.symm.trans standing
    exact .inl ⟨rfl, e, rfl⟩
  · exact .inr ⟨leg, earlier, legs, ran, stands.of_ended ended⟩

theorem Shape.leg_cases (h : Shape config id x) {leg : Leg ω} (hleg : leg ∈ x.legs) : leg.Ran id ∧
    ((∃ endpoint, leg.attempt = (x.first config endpoint).1) ∨
      ∃ fallback t, leg.attempt = Dispatch.attemptAt fallback x.payload t (x.deadline config)) := by
  cases h with
  | away e closed legs standing =>
    rw [legs] at hleg
    cases hleg
  | first endpoint leg' chosen legs ran attempt stands =>
    rw [legs] at hleg
    obtain rfl := List.mem_singleton.1 hleg
    exact ⟨ran, .inl ⟨endpoint, attempt⟩⟩
  | second endpoint fallback failed leg' t e chosen legs failed_ran ran failed_attempt retry
      failed_standing attempt stands =>
    rw [legs] at hleg
    rcases List.mem_cons.1 hleg with rfl | hleg
    · exact ⟨ran, .inr ⟨fallback, t, attempt⟩⟩
    · obtain rfl := List.mem_singleton.1 hleg
      exact ⟨failed_ran, .inl ⟨endpoint, failed_attempt⟩⟩

theorem Shape.leg_ran (h : Shape config id x) {leg : Leg ω} (hleg : leg ∈ x.legs) : leg.Ran id :=
  (h.leg_cases hleg).1

/-- The oldest leg is the attempt at the selected endpoint. While it runs no other does. -/
theorem Shape.oldest (h : Shape config id x) {endpoint : Endpoint}
    (chosen : x.origin.dispatchable = .ok endpoint) :
    ∃ leg ∈ x.legs, x.legs.getLast? = some leg ∧ leg.attempt = (x.first config endpoint).1 ∧
      ∀ stage, leg.standing = .running stage →
        ∃ d, x.standing = .running d ∧ d.attempt = leg.attempt := by
  cases h with
  | away e closed legs standing => cases chosen.symm.trans closed
  | first endpoint' leg chosen' legs ran attempt stands =>
    cases chosen.symm.trans chosen'
    refine ⟨leg, legs ▸ List.mem_singleton_self _, by rw [legs]; rfl, attempt, fun stage running => ?_⟩
    exact ⟨_, stands.of_leg_running running, rfl⟩
  | second endpoint' fallback failed leg t e chosen' legs failed_ran ran failed_attempt retry
      failed_standing attempt stands =>
    cases chosen.symm.trans chosen'
    refine ⟨failed, ?_, by rw [legs]; rfl, failed_attempt, fun stage running => ?_⟩
    · exact legs ▸ List.mem_cons_of_mem _ (List.mem_singleton_self _)
    · cases failed_standing.symm.trans running

theorem Ran.shape (h : Ran config id x) : Shape config id x := by
  induction h with
  | begin now payload c r => exact shape_begin config now id payload c r
  | resume h running now r ih => exact ih.resume running now r
  | drop h running now r ih => exact ih.drop running now r

/-! ## What turns keep -/

inductive Rests (kept : Relays (Ledger ω) → Attempt → Phase → Prop) (now : Nat) (id : ProcessId)
    (r : Relays (Ledger ω)) : Standing Dispatch → Prop
  | running (d : Dispatch) (holds : kept r d.attempt (.at d.stage)) (early : now < d.attempt.deadline)
      (unready : d.stage.Unready now id r) : Rests kept now id r (.running d)
  | ended (a : Attempt) (result : Except RelayError RelayResponse) (holds : kept r a (.ended result)) :
      Rests kept now id r (.ended now result)

section Keeps
variable (kept : Relays (Ledger ω) → Attempt → Phase → Prop)

theorem rests_of_goes {deadline : Nat} {retry : Option Endpoint}
    {s : Relays (Ledger ω) × AttemptProgress} {legs : List (Leg ω)} {r' : Relays (Ledger ω)}
    {progress : DispatchProgress} {leg : Leg ω}
    (move : ∀ {a r p r' p'}, Attempt.Move a now id (r, p) (r', p') → kept r a p → kept r' a p')
    (further : ∀ {r a a' e}, kept r a (.ended (.error e)) → kept r a' .fresh)
    (rest : leg.attempt.AtRest now id s.1 s.2) (holds : kept s.1 leg.attempt s.2.phase)
    (h : Leg.Goes now id payload deadline leg retry s legs r' progress) :
    Rests kept now id r' (progress.standing now) := by
  cases h with
  | @on retry r progress last =>
    cases progress with
    | waiting stage => exact .running _ holds rest.1 rest.2
    | done result => exact .ended leg.attempt result holds
  | @further fallback r e a hattempt =>
    -- The second attempt starts in the same turn, with the relays as the first has left them.
    have hturned := a.start_turned now id r
    have hholds := hturned.keeps (fun r p => kept r a p) move (further holds)
    have hrest := hturned.rest
    generalize a.start now id r = s' at hholds hrest
    obtain ⟨r', progress⟩ := s'
    cases progress with
    | waiting stage => exact .running _ hholds hrest.1 hrest.2
    | done result => exact .ended a result hholds

/-- A turn of a delivery keeps what every move keeps, and turning from one attempt to another. -/
theorem resume_rests
    (move : ∀ {a r p r' p'}, Attempt.Move a now id (r, p) (r', p') → kept r a p → kept r' a p')
    (further : ∀ {r a a' e}, kept r a (.ended (.error e)) → kept r a' .fresh)
    (x : Delivery ω) (holds : kept r d.attempt (.at d.stage)) :
    Rests kept now id (x.resume d now id r).2 (x.resume d now id r).1.standing := by
  have hturned := d.attempt.resume_turned now id r d.stage
  have hgoes := Leg.goes now id d.payload d.deadline (⟨d.attempt, [], .dropped⟩ : Leg ω) d.retry x.context
    (d.attempt.resume now id r d.stage)
  exact rests_of_goes kept move further hturned.rest
    (hturned.keeps (fun r p => kept r d.attempt p) move holds) hgoes

theorem begin_rests
    (move : ∀ {a r p r' p'}, Attempt.Move a now id (r, p) (r', p') → kept r a p → kept r' a p')
    (further : ∀ {r a a' e}, kept r a (.ended (.error e)) → kept r a' .fresh)
    (holds : ∀ a, kept r a .fresh) (config : RelayConfig) (payload : RelayPayload) (c : RequestContext) :
    (begin config now id payload c r).2 = r ∧
        (∃ e, (begin config now id payload c r).1.standing = .ended now (.error e)) ∨
      Rests kept now id (begin config now id payload c r).2
        (begin config now id payload c r).1.standing := by
  unfold begin Dispatch.begin
  cases c.dispatchable with
  | error e => exact .inl ⟨rfl, e, rfl⟩
  | ok endpoint =>
    have hturned := (Dispatch.first config now payload c endpoint).1.start_turned now id r
    have hgoes := Leg.goes now id payload (now + Dispatch.timeoutOf config payload)
      (⟨(Dispatch.first config now payload c endpoint).1, [], .dropped⟩ : Leg ω)
      (Dispatch.first config now payload c endpoint).2 { c with state := .dispatched }
      ((Dispatch.first config now payload c endpoint).1.start now id r)
    exact .inr (rests_of_goes kept move further hturned.rest
      (hturned.keeps (fun r p => kept r _ p) move (holds _)) hgoes)

end Keeps

end Delivery
end RelayGateway
