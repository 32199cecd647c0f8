import RelayGateway.Proofs.Process.Reachable
import RelayGateway.Proofs.Relay.Record
import RelayGateway.Proofs.Sanction.History

/-! # What a request teaches the gateway

The record of a request is taken into the sanctions. An attempt at a protocol endpoint that has failed
through the fault of the endpoint has the endpoint sanctioned for its session and for a time. Nothing
else is sanctioned, no sanction is lifted, and a request that has contacted nobody teaches nothing.
-/
namespace RelayGateway

/-! ## Batches -/

namespace SanctionStore
variable {s : SanctionStore} {now later : Nat} {os : List EndpointObservation}
variable {key : SessionSanctionKey}

/-- What no observation of a batch changes, the batch leaves as it is. -/
theorem apply_frame {α : Type} (f : SanctionStore → α)
    (h : ∀ s', ∀ o ∈ os, f (record now s' o) = f s') : f (s.applyObservations now os) = f s :=
  List.foldlRecOn (motive := fun s' => f s' = f s) os (record now) rfl fun s' hs' o ho =>
    (h s' o ho).trans hs'

theorem ttl_apply (s : SanctionStore) (now : Nat) (os : List EndpointObservation) :
    (s.applyObservations now os).session.ttl = s.session.ttl :=
  apply_frame (fun s => s.session.ttl) fun _ _ _ => ttl_record

theorem ttl_afterCheck (s : SanctionStore) (now : Nat) (e : Endpoint) :
    (afterCheck now s e).session.ttl = s.session.ttl := by
  unfold afterCheck
  split
  · exact ExpiringMap.ttl_afterRead _ _
  · rfl

theorem ttl_afterFilter (s : SanctionStore) (now : Nat) (candidates : EndpointMap) :
    (s.afterFilter now candidates).session.ttl = s.session.ttl :=
  List.foldlRecOn (motive := fun s' : SanctionStore => s'.session.ttl = s.session.ttl)
    candidates.values (afterCheck now) rfl fun s' hs' e _ => (ttl_afterCheck s' now e).trans hs'

theorem ttl_react (s : SanctionStore) (now : Nat) (event : Event) :
    (s.react now event).session.ttl = s.session.ttl := by
  cases event with
  | apply observations => exact ttl_apply s now observations
  | check e => exact ttl_afterCheck s now e
  | filter candidates => exact ttl_afterFilter s now candidates
  | _ => rfl

/-- Observations that do not concern a key leave its sanction as it is, at any time. -/
theorem session_apply_of_not (h : ∀ o ∈ os, suspends key o = false) :
    (s.applyObservations now os).session.find? later key = s.session.find? later key := by
  refine apply_frame (fun s => s.session.find? later key) fun s' o ho => ?_
  rw [session_record, h o ho]
  rfl

/-- After observations of which one concerns the key, it is sanctioned for the whole time to live. -/
theorem session_apply_of_mem (h : ∃ o ∈ os, suspends key o = true) :
    ((s.applyObservations now os).session.find? later key).isSome = true ↔
      later < now + s.session.ttl := by
  induction os using List.reverseRecOn with
  | nil => simp at h
  | append_singleton os o ih =>
    have happly : s.applyObservations now (os ++ [o]) = record now (s.applyObservations now os) o :=
      List.foldl_append
    rw [happly, session_record, ttl_apply]
    split
    · split <;> simp [*]
    · next hnot =>
      refine ih ?_
      obtain ⟨o', ho', hsuspends⟩ := h
      rcases List.mem_append.1 ho' with ho' | ho'
      · exact ⟨o', ho', hsuspends⟩
      · rw [List.mem_singleton.1 ho'] at hsuspends
        exact absurd hsuspends hnot

theorem permanent_record_of_ne {o : EndpointObservation}
    (h : o.recommendedSanction ≠ some .permanent) : (record now s o).permanent = s.permanent := by
  unfold record
  split
  · rfl
  · dsimp only
    split
    · exact absurd ‹_› h
    · rfl
    · rfl

theorem permanent_apply_of_ne (h : ∀ o ∈ os, o.recommendedSanction ≠ some .permanent) :
    (s.applyObservations now os).permanent = s.permanent :=
  apply_frame (fun s => s.permanent) fun _ o ho => permanent_record_of_ne (h o ho)

theorem config_record (s : SanctionStore) (now : Nat) (o : EndpointObservation) :
    (record now s o).config = s.config := by
  unfold record
  split
  · rfl
  · dsimp only
    split <;> rfl

theorem config_apply (s : SanctionStore) (now : Nat) (os : List EndpointObservation) :
    (s.applyObservations now os).config = s.config :=
  apply_frame (fun s => s.config) fun s' o _ => config_record s' now o

end SanctionStore

/-! ## Attempts at endpoints without a session -/

namespace Attempt
variable {ω : Type} [Collaborators ω] {a : Attempt} {now : Nat} {id : ProcessId}
variable {r : Relays ω} {s : Relays ω × AttemptProgress}

/-- An attempt that cannot even ask for its signature ends at once. -/
theorem start_of_refused (protocol : a.endpoint.isFallback = false) {e : RelayError}
    (bad : a.request? = .error e) : a.start now id r = (r, .done (.error e)) := by
  unfold start
  rw [protocol, bad]
  rfl

end Attempt

namespace Leg
variable {ω : Type} [Collaborators ω] {leg : Leg ω} {id : ProcessId} {now : Nat}

theorem Ran.of_refused (h : leg.Ran id) (protocol : leg.attempt.endpoint.isFallback = false)
    {e : RelayError} (bad : leg.attempt.request? = .error e) :
    ∃ now, leg.standing = .ended now (.error e) := by
  induction h with
  | start a t r =>
    have hstart : a.start t id r = (r, .done (.error e)) := Attempt.start_of_refused protocol bad
    refine ⟨t, ?_⟩
    show (a.start t id r).2.standing t = _
    rw [hstart]
    rfl
  | resume h running t r ih =>
    obtain ⟨now, hended⟩ := ih protocol bad
    cases running.symm.trans hended
  | drop h running t r ih =>
    obtain ⟨now, hended⟩ := ih protocol bad
    cases running.symm.trans hended

/-- A protocol endpoint that is at fault has a session. -/
theorem Ran.header_of_fault (h : leg.Ran id) (protocol : leg.attempt.endpoint.isFallback = false)
    {e : RelayError} (ended : leg.standing = .ended now (.error e)) (fault : e.kind ≠ .internal) :
    ∃ header, leg.attempt.endpoint.header? = some header := by
  cases hsession : leg.attempt.endpoint.session with
  | some session => exact ⟨session.header, by rw [Endpoint.header?, hsession]; rfl⟩
  | none =>
    have bad : leg.attempt.request? = .error (.missingApplication "") := by
      unfold Attempt.request?
      rw [hsession]
    obtain ⟨t, hended⟩ := h.of_refused protocol bad
    cases ended.symm.trans hended
    exact absurd rfl fault

end Leg

/-! ## The lesson of a dispatch -/

namespace Delivery
variable {ω : Type}

/-- An attempt at the protocol endpoint of the key, in the session of the key, has failed through the
fault of the endpoint. -/
def Penalises (x : Delivery ω) (key : SessionSanctionKey) : Prop :=
  ∃ leg ∈ x.legs, ∃ now error header, leg.standing = .ended now (.error error) ∧
    error.kind ≠ .internal ∧ leg.attempt.endpoint.isFallback = false ∧
      leg.attempt.endpoint.header? = some header ∧
        key = ⟨header.appAddress, header.sessionId, leg.attempt.endpoint.addr⟩

end Delivery

namespace Leg
variable {ω : Type} {legs : List (Leg ω)} {o : EndpointObservation}

theorem mem_entries : o ∈ entries legs ↔ ∃ leg ∈ legs, ∃ now result,
    leg.standing = .ended now result ∧ o = leg.attempt.observation now result := by
  unfold entries
  rw [List.mem_filterMap]
  constructor
  · rintro ⟨leg, hleg, hentry⟩
    refine ⟨leg, List.mem_reverse.1 hleg, ?_⟩
    unfold entry? at hentry
    split at hentry
    · next now result hended => exact ⟨now, result, hended, (Option.some.inj hentry).symm⟩
    · cases hentry
  · rintro ⟨leg, hleg, now, result, hended, rfl⟩
    exact ⟨leg, List.mem_reverse.2 hleg, entry?_of_ended hended⟩

end Leg

namespace EndpointErrorKind

theorem recommendedSanction_ne_permanent (kind : EndpointErrorKind) :
    kind.recommendedSanction ≠ .permanent := by
  cases kind <;> exact nofun

end EndpointErrorKind

namespace Attempt
variable {a : Attempt} {now : Nat} {result : Except RelayError RelayResponse}
variable {key : SessionSanctionKey}

theorem recommends_ne_permanent (a : Attempt) (now : Nat) (result : Except RelayError RelayResponse) :
    (a.observation now result).recommendedSanction ≠ some .permanent := by
  have hreports := a.observation_reports now result
  cases result with
  | ok response =>
    rw [(hreports.success response rfl).2.2.1]
    exact nofun
  | error error =>
    rw [(hreports.failure error rfl).2.2.1]
    exact fun h => error.kind.recommendedSanction_ne_permanent (Option.some.inj h)

/-- The observations that have an endpoint sanctioned are those of faults of protocol endpoints. -/
theorem suspends_observation_iff : SanctionStore.suspends key (a.observation now result) = true ↔
    ∃ error, result = .error error ∧ error.kind ≠ .internal ∧ a.endpoint.isFallback = false ∧
      key = (a.observation now result).sanctionKey := by
  have hreports := a.observation_reports now result
  unfold SanctionStore.suspends
  rw [hreports.endpoint.2.2]
  cases result with
  | ok response => simp [(hreports.success response rfl).2.2.1]
  | error error =>
    rw [(hreports.failure error rfl).2.2.1]
    simp only [Bool.and_eq_true, Bool.not_eq_true', decide_eq_true_eq, Option.some.injEq,
      EndpointErrorKind.recommendedSanction_eq_session_iff, Except.error.injEq, exists_eq_left']
    constructor
    · rintro ⟨⟨protocol, fault⟩, hkey⟩
      exact ⟨fault, protocol, hkey.symm⟩
    · rintro ⟨fault, protocol, hkey⟩
      exact ⟨⟨protocol, fault⟩, hkey.symm⟩

theorem sanctionKey_observation {header : SessionHeader} (h : a.endpoint.header? = some header) :
    (a.observation now result).sanctionKey =
      ⟨header.appAddress, header.sessionId, a.endpoint.addr⟩ := by
  have hreports := a.observation_reports now result
  unfold EndpointObservation.sanctionKey
  rw [hreports.endpoint.1, hreports.session.1, hreports.session.2, EndpointObservation.headerOf, h]
  rfl

end Attempt

namespace Delivery
variable {ω : Type} [Collaborators ω] {config : RelayConfig} {id : ProcessId} {x : Delivery ω}

/-- A dispatch that was turned away has tried nobody and left its context as it was. -/
theorem Ran.of_closed (h : x.Ran config id) {e : RelayError}
    (closed : x.origin.dispatchable = .error e) : x.context = x.origin ∧ x.legs = [] := by
  have hover : ∀ {y : Delivery ω} {d : Dispatch}, y.Ran config id → y.origin.dispatchable = .error e →
      y.standing ≠ .running d := by
    intro y d hy hclosed running
    cases hy.shape with
    | away e' closed' legs standing => cases running.symm.trans standing
    | first endpoint leg chosen => cases chosen.symm.trans hclosed
    | second endpoint fallback failed leg t e' chosen => cases chosen.symm.trans hclosed
  cases h with
  | begin now payload c r =>
    have hclosed : c.dispatchable = .error e := closed
    unfold Delivery.begin Dispatch.begin
    rw [hclosed]
    exact ⟨rfl, rfl⟩
  | resume h running now r => exact absurd running (hover h closed)
  | drop h running now r => exact absurd running (hover h closed)

/-- What is on record after a dispatch are the entries of its attempts. -/
theorem Ran.observed (h : x.Ran config id) (prepared : x.origin.Prepared) :
    x.context.observed = Leg.entries x.legs := by
  cases hdispatchable : x.origin.dispatchable with
  | error e =>
    obtain ⟨hcontext, hlegs⟩ := h.of_closed hdispatchable
    rw [hcontext, prepared.unsent.observed, hlegs]
    rfl
  | ok endpoint =>
    have hnoted : x.context = x.origin.noting x.standing.state (Leg.entries x.legs) :=
      h.noted hdispatchable
    rw [congrArg RequestContext.observed hnoted]
    show x.origin.observed ++ _ = _
    rw [prepared.unsent.observed]
    rfl

/-- The entries of a dispatch have sanctioned what it penalises. -/
theorem Ran.penalises_iff (h : x.Ran config id) (key : SessionSanctionKey) :
    x.Penalises key ↔ ∃ o ∈ Leg.entries x.legs, SanctionStore.suspends key o = true := by
  constructor
  · rintro ⟨leg, hleg, now, error, header, ended, fault, protocol, hheader, rfl⟩
    refine ⟨_, Leg.mem_entries.2 ⟨leg, hleg, now, .error error, ended, rfl⟩, ?_⟩
    exact Attempt.suspends_observation_iff.2
      ⟨error, rfl, fault, protocol, (Attempt.sanctionKey_observation hheader).symm⟩
  · rintro ⟨o, ho, hsuspends⟩
    obtain ⟨leg, hleg, now, result, ended, rfl⟩ := Leg.mem_entries.1 ho
    obtain ⟨error, rfl, fault, protocol, hkey⟩ := Attempt.suspends_observation_iff.1 hsuspends
    obtain ⟨header, hheader⟩ := (h.shape.leg_ran hleg).header_of_fault protocol ended fault
    refine ⟨leg, hleg, now, error, header, ended, fault, protocol, hheader, ?_⟩
    rw [hkey, Attempt.sanctionKey_observation hheader]

end Delivery

/-! ## What is learnt -/

namespace Gateway
variable {ω : Type}

/-- To the sanctions every change is one event, or nothing. -/
theorem Change.reacts [Collaborators ω] {now : Nat} {g g' : Gateway ω} (h : Change now g g') :
    ∃ event, g'.sanctions = g.sanctions.react now event := by
  cases h with
  | observe observations => exact ⟨.apply observations.endpointObservations, rfl⟩
  | sweepSanctions => exact ⟨.sweep, rfl⟩
  | clearSanctions => exact ⟨.clear, rfl⟩
  | details service => exact ⟨.filter (g.serviceEndpoints service ⟨none, none⟩), rfl⟩
  | build service m =>
    have hbuilt : (g.buildContext now service m).1.sanctions =
        (g.afterOffer now service m).sanctions := by
      unfold buildContext
      split <;> rfl
    rw [hbuilt]
    unfold afterOffer
    dsimp only
    split
    · exact ⟨.wait 0, rfl⟩
    · exact ⟨.filter (g.serviceEndpoints service m), rfl⟩
  | _ => exact ⟨.wait 0, rfl⟩

/-- What `g'` has learnt from a dispatch at a time `now`, when sanctions live for `ttl`. -/
structure Learnt (x : Delivery ω) (now ttl : Nat) (g g' : Gateway ω) : Prop where
  elsewhere : g' = { g with sanctions := { g.sanctions with session := g'.sanctions.session } }
  lifetime : g'.sanctions.session.ttl = ttl
  penalised : ∀ key, x.Penalises key → ∀ later,
    (g'.sanctions.session.find? later key).isSome = true ↔ later < now + ttl
  spared : ∀ key, ¬ x.Penalises key → ∀ later,
    g'.sanctions.session.find? later key = g.sanctions.session.find? later key
  /-- An endpoint that is not penalised in its session is judged as before, now and later. -/
  unaffected : ∀ e : Endpoint, (∀ key, e.sanctionKey? = some key → ¬ x.Penalises key) → ∀ later,
    g'.sanctions.reason? later e = g.sanctions.reason? later e

variable [Collaborators ω] {config : RelayConfig} {id : ProcessId} {x : Delivery ω}

omit [Collaborators ω] in
/-- Without permanent sanctions among the observations, the session sanctions alone change. -/
theorem applyObservations_elsewhere (g : Gateway ω) (now : Nat) (observations : RequestObservations)
    (h : ∀ o ∈ observations.endpointObservations, o.recommendedSanction ≠ some .permanent) :
    g.applyObservations now observations = { g with sanctions := { g.sanctions with
      session := (g.applyObservations now observations).sanctions.session } } := by
  have hpermanent : (g.sanctions.applyObservations now observations.endpointObservations).permanent =
      g.sanctions.permanent := SanctionStore.permanent_apply_of_ne h
  have hconfig := g.sanctions.config_apply now observations.endpointObservations
  unfold applyObservations
  generalize g.sanctions.applyObservations now observations.endpointObservations = s at hpermanent hconfig
  obtain ⟨config, permanent, session⟩ := s
  cases hpermanent
  cases hconfig
  rfl

theorem learnt_applyObservations (g : Gateway ω) (now : Nat) (h : x.Ran config id)
    (prepared : x.origin.Prepared) :
    Learnt x now g.sanctions.session.ttl g (g.applyObservations now x.context.observations) := by
  have hentries : x.context.observations.endpointObservations = Leg.entries x.legs :=
    h.observed prepared
  have hpermanent : ∀ o ∈ x.context.observations.endpointObservations,
      o.recommendedSanction ≠ some .permanent := by
    rw [hentries]
    intro o ho
    obtain ⟨leg, -, t, result, -, rfl⟩ := Leg.mem_entries.1 ho
    exact leg.attempt.recommends_ne_permanent t result
  have hspared : ∀ key, ¬ x.Penalises key → ∀ later,
      (g.applyObservations now x.context.observations).sanctions.session.find? later key =
        g.sanctions.session.find? later key := by
    intro key hkey later
    refine SanctionStore.session_apply_of_not fun o ho => Bool.eq_false_iff.2 fun hsuspends => ?_
    exact hkey ((h.penalises_iff key).2 ⟨o, hentries ▸ ho, hsuspends⟩)
  refine ⟨applyObservations_elsewhere g now _ hpermanent, SanctionStore.ttl_apply .., ?_, hspared, ?_⟩
  · intro key hkey later
    refine SanctionStore.session_apply_of_mem ?_
    rw [hentries]
    exact (h.penalises_iff key).1 hkey
  · intro e he later
    unfold SanctionStore.reason?
    rw [show (g.applyObservations now x.context.observations).sanctions.permanent = g.sanctions.permanent
      from SanctionStore.permanent_apply_of_ne hpermanent]
    cases hkey : e.sanctionKey? with
    | none => rfl
    | some key =>
      dsimp only
      rw [hspared key (he key hkey) later]

omit [Collaborators ω] in
/-- A context that was not dispatched has observed nothing. -/
theorem applyObservations_of_prepared (g : Gateway ω) (now : Nat) {c : RequestContext}
    (prepared : c.Prepared) : g.applyObservations now c.observations = g := by
  unfold applyObservations
  rw [show c.observations.endpointObservations = [] from prepared.unsent.observed]
  rfl

end Gateway

namespace Operation
variable {ω : Type} [Collaborators ω] {config : GatewayConfig} {o : Operation ω}

/-- Session sanctions always live for as long as it is configured. -/
theorem Reachable.ttl_eq (h : Reachable config o) :
    o.gateway.sanctions.session.ttl = config.sanctions.sessionTtl := by
  refine h.invariant (p := fun g => g.sanctions.session.ttl = config.sanctions.sessionTtl)
    (fun _ => rfl) ?_
  intro now g g' hchange hg
  obtain ⟨event, hevent⟩ := hchange.reacts
  rw [hevent, SanctionStore.ttl_react, hg]

/-- In every state of the gateway, the record of a dispatch has the protocol endpoints at fault
sanctioned in their sessions, from now on and for the time that is configured, and changes nothing else.
A context that was not dispatched changes nothing. -/
theorem Reachable.feedback (h : Reachable config o) :
    (∀ relays id (x : Delivery ω), x.Ran relays id → x.origin.Prepared →
      Gateway.Learnt x o.now config.sanctions.sessionTtl o.gateway
        (o.applyObservations x.context.observations).gateway) ∧
    ∀ c : RequestContext, c.Prepared → (o.applyObservations c.observations).gateway = o.gateway := by
  refine ⟨fun relays id x ran prepared => ?_, fun c prepared => ?_⟩
  · rw [← h.ttl_eq]
    exact o.gateway.learnt_applyObservations o.now ran prepared
  · exact o.gateway.applyObservations_of_prepared o.now prepared

/-- The node that has let the time pass is sanctioned in its session for as long as it is configured,
and the fallback that has answered is not. -/
theorem feedback_turned_over :
    Reachable default (begin default default : Operation Script) ∧
    Delivery.turnedOver.Ran Relaying.rolloverConfig 0 ∧ Delivery.turnedOver.origin.Prepared ∧
    let g := (Operation.applyObservations (begin default default : Operation Script)
      Delivery.turnedOver.context.observations).gateway
    (∀ later, (g.sanctions.session.find? later
      ⟨"app", "session", ⟨"node-https://node"⟩⟩).isSome = true ↔ later < 3600000) ∧
    ∀ later, g.sanctions.session.find? later ⟨"app", "another session", ⟨"node-https://node"⟩⟩ =
      none := by
  obtain ⟨hran, hprepared⟩ := Delivery.turnedOver_ran
  have hreachable : Reachable default (begin default default : Operation Script) := .begin ..
  obtain ⟨hdispatch, -⟩ := hreachable.feedback
  have hlearnt := hdispatch _ _ Delivery.turnedOver hran hprepared
  refine ⟨hreachable, hran, hprepared, fun later => ?_, fun later => ?_⟩
  · refine (hlearnt.penalised _ ((hran.penalises_iff _).2 ?_) later).trans ?_
    · decide +kernel
    · exact Iff.rfl
  · rw [hlearnt.spared _ ((hran.penalises_iff _).not.2 ?_) later]
    · rfl
    · decide +kernel

end Operation
end RelayGateway
