import RelayGateway.Proofs.Relay.Record

/-! # The time that is left for a fallback

In rollover the attempt at a protocol endpoint has the shorter of two times, the wait before turning to a
fallback and the time of the whole request. With a wait that is shorter than the request the fallback has
the difference, at least. With one that is not, a protocol endpoint that never answers uses up all of the
time, and the fallback is turned to at the deadline.
-/
namespace RelayGateway
variable {ω : Type}

namespace Delivery

/-- The dispatch has turned from the attempt `failed` to the attempt `leg`. -/
structure HandsOver (config : RelayConfig) (x : Delivery ω) (failed leg : Leg ω) : Prop where
  selected : x.origin.selected = some failed.attempt.endpoint
  turns : x.origin.MayTurn failed.attempt.endpoint
  least : x.origin.fallbacks.least? = some leg.attempt.endpoint
  /-- The second attempt starts when the first has failed, within the wait for it. -/
  failure : ∃ e, failed.standing = .ended leg.attempt.startedAt (.error e)
  in_wait : leg.attempt.startedAt ≤
    x.startedAt + min (Dispatch.timeoutOf config x.payload) config.rolloverFallbackWait
  deadline : leg.attempt.deadline = x.startedAt + Dispatch.timeoutOf config x.payload
  /-- What the wait is shorter than the request by is left. -/
  left : leg.attempt.startedAt +
    (Dispatch.timeoutOf config x.payload - config.rolloverFallbackWait) ≤ leg.attempt.deadline
  /-- Nothing is left only when the wait is no shorter and the first attempt has failed at the deadline of
  the request, which is then its own. -/
  spent : leg.attempt.deadline ≤ leg.attempt.startedAt →
    Dispatch.timeoutOf config x.payload ≤ config.rolloverFallbackWait ∧
      failed.attempt.deadline = x.startedAt + Dispatch.timeoutOf config x.payload ∧
      leg.attempt.startedAt = failed.attempt.deadline

variable {config : RelayConfig} {id : ProcessId} {x : Delivery ω} {failed leg : Leg ω}

theorem first_deadline_of_retry {endpoint fallback : Endpoint}
    (retry : (x.first config endpoint).2 = some fallback) :
    (x.first config endpoint).1.deadline =
      x.startedAt + min (Dispatch.timeoutOf config x.payload) config.rolloverFallbackWait := by
  obtain ⟨⟨protocol, -, -⟩, -⟩ := mayTurn_of_retry retry
  rw [first_retry, protocol] at retry
  exact first_deadline_of_fallback protocol retry

variable [Collaborators ω]

theorem Shape.handsOver (h : Shape config id x) (inTime : ∀ leg ∈ x.legs, leg.InTime)
    (legs : x.legs = [leg, failed]) : x.HandsOver config failed leg := by
  cases h with
  | away e closed legs' standing => cases legs.symm.trans legs'
  | first endpoint leg' chosen legs' ran attempt stands => cases legs.symm.trans legs'
  | second endpoint fallback failed' leg' now e chosen legs' failed_ran ran failed_attempt retry
      failed_standing attempt stands =>
    cases legs.symm.trans legs'
    have hendpoint : failed.attempt.endpoint = endpoint :=
      failed_attempt ▸ first_endpoint config x endpoint
    have hstarted : leg.attempt.startedAt = now := by rw [attempt]; rfl
    have hdeadline : leg.attempt.deadline = x.startedAt + Dispatch.timeoutOf config x.payload := by
      rw [attempt]
      rfl
    have hwait : failed.attempt.deadline =
        x.startedAt + min (Dispatch.timeoutOf config x.payload) config.rolloverFallbackWait :=
      failed_attempt ▸ first_deadline_of_retry retry
    have hnow : now ≤ failed.attempt.deadline :=
      (inTime failed (legs ▸ List.mem_cons_of_mem _ List.mem_cons_self)).ended_le failed_ran
        failed_standing
    obtain ⟨turns, hleast⟩ := mayTurn_of_retry retry
    refine ⟨?_, ?_, ?_, ⟨e, hstarted ▸ failed_standing⟩, by omega, hdeadline, by omega,
      fun hspent => by omega⟩
    · rw [hendpoint]
      exact RequestContext.selected_of_dispatchable chosen
    · rwa [hendpoint]
    · rw [hleast, attempt]
      rfl

end Delivery

namespace Relaying
variable [Collaborators ω] {config : RelayConfig} {signatures : SignatureCacheConfig} {t : Relaying ω}
variable {id : ProcessId} {x : Delivery ω} {failed leg : Leg ω}

/-- Whatever the collaborators do and whatever else goes on, a dispatch in rollover turns to the fallback
as soon as the attempt at the protocol endpoint fails, and within the wait. The fallback has the rest of the
time of the request, which is nothing only if the wait is as long as the request. -/
theorem ReachedInTime.handover (h : ReachedInTime config signatures t) (delivers : t.Delivers id x)
    (legs : x.legs = [leg, failed]) : x.HandsOver config failed leg :=
  (h.reached.ran.2 id x delivers).shape.handsOver (h.inTime id x delivers).legs legs

section Example

def spans (config : RelayConfig) : Participant Script → Nat × List (Nat × Nat)
  | .delivery x => (Dispatch.timeoutOf config x.payload,
      x.legs.map fun leg => (leg.attempt.startedAt, leg.attempt.deadline))
  | .permit _ => (0, [])

theorem legs_of_spans {t : Relaying Script} {timeout start due start' due' : Nat}
    (h : (t.participants.find? id).map (spans config) = some (timeout, [(start, due), (start', due')])) :
    ∃ x failed leg, t.Delivers id x ∧ x.legs = [leg, failed] ∧
      Dispatch.timeoutOf config x.payload = timeout ∧ leg.attempt.startedAt = start ∧
      leg.attempt.deadline = due := by
  obtain ⟨p, delivers, hp⟩ := Option.map_eq_some_iff.1 h
  cases p with
  | permit p => cases hp
  | delivery x =>
    obtain ⟨htimeout, hlegs⟩ := Prod.mk.inj hp
    obtain ⟨leg, rest, hx, hleg, hrest⟩ := List.map_eq_cons_iff.1 hlegs
    obtain ⟨failed, rest', hrest', -, hnil⟩ := List.map_eq_cons_iff.1 hrest
    obtain rfl := List.map_eq_nil_iff.1 hnil
    obtain ⟨hstart, hdue⟩ := Prod.mk.inj hleg
    exact ⟨x, failed, leg, delivers, hx.trans (congrArg _ hrest'), htimeout, hstart, hdue⟩

/-- With 20 ms to wait and 50 ms for the request, 30 ms are left. -/
theorem handsOver_turnedOver : ReachedInTime rolloverConfig default turnedOver ∧
    ∃ x failed leg, turnedOver.Delivers 0 x ∧ x.legs = [leg, failed] ∧
      leg.attempt.startedAt = 20 ∧ leg.attempt.deadline = 50 ∧
      x.HandsOver rolloverConfig failed leg := by
  have hturned : ReachedInTime rolloverConfig default turnedOver := reachedInTime_turnedOver
  have hspans : (turnedOver.participants.find? 0).map (spans rolloverConfig) =
      some (50, [(20, 50), (0, 20)]) := by
    decide +kernel
  obtain ⟨x, failed, leg, delivers, legs, -, hstart, hdue⟩ := legs_of_spans hspans
  exact ⟨hturned, x, failed, leg, delivers, legs, hstart, hdue, hturned.handover delivers legs⟩

def hurried : Relaying Script :=
  (start rolloverConfig default tardyScript).dispatch 0 rolloverContext ⟨[], "", .jsonRpc, some 10⟩

def turnedLate : Relaying Script := ({ hurried with now := 10 }).turn 0

/-- The fallback is turned to when the request is over. -/
theorem no_time_left : ReachedInTime rolloverConfig default turnedLate ∧
    ∃ x failed leg, turnedLate.Delivers 0 x ∧ x.legs = [leg, failed] ∧
      0 < Dispatch.timeoutOf rolloverConfig x.payload ∧
      ¬ leg.attempt.startedAt < leg.attempt.deadline := by
  have hhurried : ReachedInTime rolloverConfig default hurried :=
    (ReachedInTime.start tardyScript).act (.dispatch 0 _ _ rfl)
  have hturned : ReachedInTime rolloverConfig default turnedLate :=
    (hhurried.wait (.of_entries (by decide +kernel) (by decide +kernel))).act (.turn 0)
  have hspans : (turnedLate.participants.find? 0).map (spans rolloverConfig) =
      some (10, [(10, 10), (0, 10)]) := by
    decide +kernel
  obtain ⟨x, failed, leg, delivers, legs, htimeout, hstart, hdue⟩ := legs_of_spans hspans
  exact ⟨hturned, x, failed, leg, delivers, legs, by omega, by omega⟩

end Example

end Relaying

end RelayGateway
