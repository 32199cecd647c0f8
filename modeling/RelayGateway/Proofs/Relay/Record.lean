import RelayGateway.Proofs.Relay.Progress
import RelayGateway.Proofs.Relay.States

/-! # What a dispatch records

Every attempt that ends leaves one observation, in the order of the attempts, and nothing else of a
dispatch reaches the record. The observations, the state of the context and what the caller gets back
agree about what has happened.
-/
namespace RelayGateway
variable {ω : Type}

/-! ## Contexts before their dispatch -/

namespace RequestContext
variable {c : RequestContext}

inductive Prepared : RequestContext → Prop
  | new (requestId : Uuid) (service : ServiceId) (endpoints fallbacks : EndpointMap)
      (inRollover : Bool) : Prepared (.new requestId service endpoints fallbacks inRollover)
  | select {c : RequestContext} (h : Prepared c)
      (choose : List EndpointAddr → Except String EndpointAddr) :
      Prepared (c.selectEndpoint choose).1

/-- What a context is before its dispatch: nothing is observed, and no request has failed unless the
selection has. -/
structure Unsent (c : RequestContext) : Prop where
  observed : c.observed = []
  undisturbed : c.state = .built ∨ c.state = .selected → c.observations.requestError = none
  selected : c.state = .selected → ∃ e, c.selected = some e

theorem Unsent.select (h : Unsent c) (choose : List EndpointAddr → Except String EndpointAddr) :
    Unsent (c.selectEndpoint choose).1 := by
  by_cases hopen : c.state = .built ∨ c.state = .selected
  · rcases c.selectEndpoint_of_open hopen choose with ⟨e, -, heq⟩ | ⟨e, kind, -, heq⟩
    · rw [heq]
      exact ⟨h.observed, fun _ => h.undisturbed hopen, fun _ => ⟨e, rfl⟩⟩
    · rw [heq]
      refine ⟨h.observed, fun hstate => ?_, nofun⟩
      rcases hstate with hstate | hstate <;> cases hstate
  · rw [c.selectEndpoint_of_not_open hopen choose]
    exact h

theorem Prepared.unsent (h : Prepared c) : Unsent c := by
  induction h with
  | new requestId service endpoints fallbacks inRollover => exact ⟨rfl, fun _ => rfl, nofun⟩
  | select h choose ih => exact ih.select choose

def MayTurn (c : RequestContext) (endpoint : Endpoint) : Prop :=
  endpoint.isFallback = false ∧ c.inRollover = true ∧ c.fallbacks.isEmpty = false

def noting (c : RequestContext) (state : ContextState) (os : List EndpointObservation) :
    RequestContext :=
  { c with state, observations :=
      { c.observations with endpointObservations := c.observed ++ os } }

theorem noting_noting (c : RequestContext) (state state' : ContextState)
    (os os' : List EndpointObservation) :
    (c.noting state os).noting state' os' = c.noting state' (os ++ os') := by
  unfold noting observed
  rw [List.append_assoc]

theorem noting_nil (c : RequestContext) : c.noting c.state [] = c := by
  unfold noting observed
  rw [List.append_nil]

end RequestContext

/-! ## Entries -/

/-- The observation of an attempt at `e` that has ended with `result`. -/
structure EndpointObservation.Reports (o : EndpointObservation) (e : Endpoint)
    (result : Except RelayError RelayResponse) : Prop where
  endpoint : o.endpointAddr = e.addr ∧ o.supplier = e.supplier ∧ o.isFallback = e.isFallback
  session : o.appAddress = (headerOf e).appAddress ∧ o.sessionId = (headerOf e).sessionId
  failure : ∀ error, result = .error error → o.errorKind = some error.kind ∧
    o.errorDetails = some error.message ∧
    o.recommendedSanction = some error.kind.recommendedSanction ∧ o.httpStatusCode = none ∧
      o.payloadSize = none
  success : ∀ response, result = .ok response → o.errorKind = none ∧ o.errorDetails = none ∧
    o.recommendedSanction = none ∧ o.httpStatusCode = some response.status ∧
      o.payloadSize = some response.bytes.length

theorem EndpointObservation.Reports.isError_iff {o : EndpointObservation} {e : Endpoint}
    {result : Except RelayError RelayResponse} (h : o.Reports e result) :
    o.isError = true ↔ ∃ error, result = .error error := by
  unfold isError
  cases result with
  | ok response => simp [(h.success response rfl).1]
  | error error => simp [(h.failure error rfl).1]

namespace Attempt
variable {a : Attempt} {now : Nat} {result : Except RelayError RelayResponse}

theorem observation_reports (a : Attempt) (now : Nat) (result : Except RelayError RelayResponse) :
    (a.observation now result).Reports a.endpoint result := by
  cases result with
  | ok response =>
    refine ⟨⟨rfl, rfl, rfl⟩, ⟨rfl, rfl⟩, nofun, ?_⟩
    rintro _ ⟨⟩
    exact ⟨rfl, rfl, rfl, rfl, rfl⟩
  | error error =>
    refine ⟨⟨rfl, rfl, rfl⟩, ⟨rfl, rfl⟩, ?_, nofun⟩
    rintro _ ⟨⟩
    exact ⟨rfl, rfl, rfl, rfl, rfl⟩

variable [Collaborators ω] {id : ProcessId} {x : Relays ω × Phase} {r : Relays ω}
variable {response : RelayResponse}

/-- A response names the endpoint of the attempt. -/
theorem Turned.endpointAddr_eq (h : a.Turned now id x (r, .done (.ok response)))
    (running : ∀ result, x.2 ≠ .ended result) : response.endpointAddr = a.endpoint.addr := by
  refine h.keeps (fun _ p => ∀ response, p = .ended (.ok response) →
    response.endpointAddr = a.endpoint.addr) ?_ (fun response he => absurd he (running _)) response rfl
  intro r p r' p' move _ response hended
  subst hended
  cases move with
  | accept fallback ready => rfl
  | valid ready => rfl

end Attempt

/-! ## Legs and their entries -/

namespace Leg
variable {leg : Leg ω} {now : Nat}

def entry? (leg : Leg ω) : Option EndpointObservation :=
  match leg.standing with
  | .ended now result => some (leg.attempt.observation now result)
  | _ => none

theorem entry?_of_ended {result : Except RelayError RelayResponse} (h : leg.standing = .ended now result) :
    leg.entry? = some (leg.attempt.observation now result) := by
  unfold entry?
  rw [h]

def entries (legs : List (Leg ω)) : List EndpointObservation := legs.reverse.filterMap entry?

theorem entries_append (legs legs' : List (Leg ω)) :
    entries (legs ++ legs') = entries legs' ++ entries legs := by
  unfold entries
  rw [List.reverse_append, List.filterMap_append]

theorem entries_singleton (leg : Leg ω) : entries [leg] = leg.entry?.toList := by
  unfold entries
  cases h : leg.entry? <;> simp [h]

theorem entries_cons_of_none (h : leg.entry? = none) (legs : List (Leg ω)) :
    entries (leg :: legs) = entries legs := by
  rw [← List.singleton_append, entries_append, entries_singleton, h]
  exact List.append_nil _

variable [Collaborators ω]

theorem Ran.endpointAddr_eq {id : ProcessId} {response : RelayResponse} (h : leg.Ran id)
    (ended : leg.standing = .ended now (.ok response)) :
    response.endpointAddr = leg.attempt.endpoint.addr := by
  obtain ⟨turn, -, -, p, running, turned⟩ := h.turn_of_ended ended
  exact turned.endpointAddr_eq running

end Leg

def Standing.state : Standing Dispatch → ContextState
  | .ended _ result => RequestContext.stateAfter result
  | _ => .dispatched

namespace Dispatch
variable {now deadline : Nat} {payload : RelayPayload} {c : RequestContext}
variable {leg : Leg ω} {s : Relays (Ledger ω) × AttemptProgress}

/-- A turn of the last attempt notes its observation if it has ended. -/
theorem afterLast_noting (payload : RelayPayload) (deadline : Nat) (leg : Leg ω)
    (s : Relays (Ledger ω) × AttemptProgress) (hstate : c.state = .dispatched)
    (hstanding : leg.standing = s.2.standing now) :
    (afterLast now payload deadline leg.attempt c s).1 =
      c.noting ((afterLast now payload deadline leg.attempt c s).2.2.standing now).state
        (Leg.entries [leg]) := by
  obtain ⟨r, progress⟩ := s
  rw [Leg.entries_singleton, Leg.entry?, hstanding]
  cases progress with
  | waiting stage => exact (hstate ▸ c.noting_nil).symm
  | done result => rfl

variable [Collaborators ω]

/-- A turn notes the observations of the legs that have ended in it. -/
theorem advance_noting (id : ProcessId) (payload : RelayPayload) (deadline : Nat) (leg : Leg ω)
    (retry : Option Endpoint) (s : Relays (Ledger ω) × AttemptProgress)
    (hstate : c.state = .dispatched) (hstanding : leg.standing = s.2.standing now) :
    (advance now id payload deadline leg.attempt retry c s).1 =
      c.noting ((advance now id payload deadline leg.attempt retry c s).2.2.standing now).state
        (Leg.entries (leg.next now id payload deadline retry s)) := by
  obtain ⟨r, progress⟩ := s
  cases retry with
  | none => exact afterLast_noting payload deadline leg (r, progress) hstate hstanding
  | some fallback =>
    cases progress with
    | waiting stage => exact afterLast_noting payload deadline leg (r, .waiting stage) hstate hstanding
    | done result =>
      cases result with
      | ok response =>
        exact afterLast_noting payload deadline leg (r, .done (.ok response)) hstate hstanding
      | error e =>
        -- The second attempt starts from the context as the failure of the first has left it.
        have hfailed : c.observe (leg.attempt.observation now (.error e)) =
            c.noting .dispatched (Leg.entries [leg]) := by
          rw [Leg.entries_singleton, Leg.entry?_of_ended hstanding, ← hstate]
          rfl
        have hsecond := afterLast_noting (c := c.noting .dispatched (Leg.entries [leg])) payload deadline
          (Leg.start (attemptAt fallback payload now deadline) now id r)
          ((attemptAt fallback payload now deadline).start now id r) rfl rfl
        rw [RequestContext.noting_noting, ← Leg.entries_append] at hsecond
        unfold advance afterFirst
        dsimp only
        rw [hfailed]
        exact hsecond

end Dispatch

/-! ## Deliveries -/

namespace Delivery
variable [Collaborators ω] {config : RelayConfig} {id : ProcessId} {x : Delivery ω} {d : Dispatch}

/-- The context of a dispatch that has begun differs from the one that was handed over in its state and
in the observations of the legs alone. -/
def Noted (x : Delivery ω) : Prop :=
  x.context = x.origin.noting x.standing.state (Leg.entries x.legs)

theorem begin_noted (config : RelayConfig) (now : Nat) (id : ProcessId) (payload : RelayPayload)
    {c : RequestContext} {endpoint : Endpoint} (chosen : c.dispatchable = .ok endpoint)
    (r : Relays (Ledger ω)) : Noted (begin config now id payload c r).1 := by
  unfold Noted begin Dispatch.begin
  rw [chosen]
  exact Dispatch.advance_noting id payload _ (Leg.start _ now id r) _ _ rfl rfl

theorem Noted.resume (h : Noted x) (shape : Shape config id x) (running : x.standing = .running d)
    (now : Nat) (r : Relays (Ledger ω)) : Noted (x.resume d now id r).1 := by
  obtain ⟨leg, earlier, legs, attempt, leg_running, -, -⟩ := shape.running running
  have hcontext : x.context = x.origin.noting .dispatched (Leg.entries earlier) := by
    have hnone : leg.entry? = none := by
      unfold Leg.entry?
      rw [leg_running]
    have hnoted : x.context = x.origin.noting x.standing.state (Leg.entries x.legs) := h
    rw [running, legs, Leg.entries_cons_of_none hnone] at hnoted
    exact hnoted
  have hstate : x.context.state = .dispatched := by
    rw [hcontext]
    rfl
  have hadvance := Dispatch.advance_noting id d.payload d.deadline (leg.resume now id r d.stage) d.retry
    (leg.attempt.resume now id r d.stage) hstate rfl
  have horigin : (x.resume d now id r).1.origin = x.origin := rfl
  unfold Noted
  rw [legs_resume legs now id r, Leg.entries_append, horigin,
    ← RequestContext.noting_noting _ .dispatched, ← hcontext, ← attempt]
  unfold Delivery.resume Dispatch.resume
  rw [← attempt]
  exact hadvance

omit [Collaborators ω] in
theorem entries_drop (legs : List (Leg ω)) (now : Nat) (id : ProcessId) (r : Relays (Ledger ω))
    (stage : AttemptStage) {leg : Leg ω} {earlier : List (Leg ω)} (hlegs : legs = leg :: earlier)
    (running : leg.standing = .running stage) :
    Leg.entries (legs.modifyHead fun leg => leg.drop now id r stage) = Leg.entries legs := by
  have hnone : leg.entry? = none := by
    unfold Leg.entry?
    rw [running]
  rw [hlegs, List.modifyHead_cons, Leg.entries_cons_of_none rfl, Leg.entries_cons_of_none hnone]

theorem Noted.drop (h : Noted x) (shape : Shape config id x) (running : x.standing = .running d)
    (now : Nat) (r : Relays (Ledger ω)) : Noted (x.drop d now id r).1 := by
  obtain ⟨leg, earlier, legs, -, leg_running, -, -⟩ := shape.running running
  have hnoted : x.context = x.origin.noting x.standing.state (Leg.entries x.legs) := h
  have hentries := entries_drop x.legs now id r d.stage legs leg_running
  unfold Noted Delivery.drop
  dsimp only
  rw [hentries, hnoted, running]
  rfl

theorem Ran.noted (h : x.Ran config id) {endpoint : Endpoint}
    (chosen : x.origin.dispatchable = .ok endpoint) : Noted x := by
  induction h with
  | begin now payload c r => exact begin_noted config now id payload chosen r
  | resume h running now r ih => exact (ih chosen).resume h.shape running now r
  | drop h running now r ih => exact (ih chosen).drop h.shape running now r

/-! ### Dispatches that have ended -/

inductive Account (c : RequestContext) (endpoint : Endpoint) :
    List EndpointObservation → Except RelayError RelayResponse → Prop
  | single {o : EndpointObservation} {result : Except RelayError RelayResponse}
      (reports : o.Reports endpoint result)
      (last : (∃ error, result = .error error) → ¬ c.MayTurn endpoint) :
      Account c endpoint [o] result
  | turned {o o' : EndpointObservation} {fallback : Endpoint} {error : RelayError}
      {result : Except RelayError RelayResponse} (reports : o.Reports endpoint (.error error))
      (turns : c.MayTurn endpoint) {addr : EndpointAddr} (found : c.fallbacks.find? addr = some fallback)
      (least : ∀ addr' e, c.fallbacks.find? addr' = some e → EndpointAddr.le addr addr' = true)
      (reports' : o'.Reports fallback result) : Account c endpoint [o, o'] result

omit [Collaborators ω] in
theorem Account.last {c : RequestContext} {endpoint : Endpoint} {entries : List EndpointObservation}
    {result : Except RelayError RelayResponse} (h : Account c endpoint entries result) :
    ∃ last e, entries.getLast? = some last ∧ last.Reports e result := by
  cases h with
  | single reports last => exact ⟨_, endpoint, rfl, reports⟩
  | turned reports turns found least reports' => exact ⟨_, _, rfl, reports'⟩

omit [Collaborators ω] in
theorem first_retry (config : RelayConfig) (x : Delivery ω) (endpoint : Endpoint) :
    (x.first config endpoint).2 =
      if endpoint.isFallback then none else x.origin.rolloverFallback? := by
  unfold first Dispatch.first
  dsimp only
  split
  · next fallback hfallback => exact hfallback.symm
  · next hnone => exact hnone.symm

omit [Collaborators ω] in
theorem not_mayTurn_of_retry {endpoint : Endpoint} (h : (x.first config endpoint).2 = none) :
    ¬ x.origin.MayTurn endpoint := by
  rintro ⟨protocol, rollover, nonempty⟩
  obtain ⟨fallback, hleast⟩ := EndpointMap.exists_least? nonempty
  rw [first_retry, protocol] at h
  unfold RequestContext.rolloverFallback? at h
  rw [rollover] at h
  cases h.symm.trans hleast

omit [Collaborators ω] in
theorem mayTurn_of_retry {endpoint fallback : Endpoint}
    (h : (x.first config endpoint).2 = some fallback) :
    x.origin.MayTurn endpoint ∧ x.origin.fallbacks.least? = some fallback := by
  rw [first_retry] at h
  split at h
  · cases h
  · next protocol =>
    unfold RequestContext.rolloverFallback? at h
    split at h
    · next rollover =>
      refine ⟨⟨Bool.eq_false_iff.2 protocol, rollover, ?_⟩, h⟩
      obtain ⟨addr, hfind, -⟩ := EndpointMap.least?_spec h
      refine Bool.eq_false_iff.2 fun hempty => ?_
      cases ((Table.isEmpty_iff _).1 hempty addr).symm.trans hfind
    · cases h

def Matches (legs : List (Leg ω)) (entries : List EndpointObservation) : Prop :=
  List.Forall₂ (fun leg o => ∃ t outcome, leg.standing = .ended t outcome ∧
    o = leg.attempt.observation t outcome) legs entries

theorem Ran.account (h : x.Ran config id) {endpoint : Endpoint}
    (chosen : x.origin.dispatchable = .ok endpoint) {now : Nat}
    {result : Except RelayError RelayResponse} (ended : x.standing = .ended now result) :
    Account x.origin endpoint (Leg.entries x.legs) result ∧
      Matches x.legs.reverse (Leg.entries x.legs) := by
  cases h.shape with
  | away e closed legs standing => cases chosen.symm.trans closed
  | first endpoint' leg chosen' legs ran attempt stands =>
    cases chosen.symm.trans chosen'
    have hended := stands.of_ended ended
    have hentries : Leg.entries x.legs = [leg.attempt.observation now result] := by
      rw [legs, Leg.entries_singleton, Leg.entry?_of_ended hended]
      rfl
    have hreports := leg.attempt.observation_reports now result
    rw [attempt, first_endpoint, ← attempt] at hreports
    rw [hentries, legs]
    refine ⟨.single hreports ?_, .cons ⟨now, result, hended, rfl⟩ .nil⟩
    rintro ⟨error, rfl⟩
    cases stands with
    | running stage leg_standing standing => cases ended.symm.trans standing
    | ended t result' leg_standing standing last =>
      cases ended.symm.trans standing
      exact not_mayTurn_of_retry (last error rfl)
    | dropped leg_standing standing => cases ended.symm.trans standing
  | second endpoint' fallback failed leg t e chosen' legs failed_ran ran failed_attempt retry
      failed_standing attempt stands =>
    cases chosen.symm.trans chosen'
    have hended := stands.of_ended ended
    have hentries : Leg.entries x.legs =
        [failed.attempt.observation t (.error e), leg.attempt.observation now result] := by
      rw [legs, ← List.singleton_append, Leg.entries_append, Leg.entries_singleton,
        Leg.entries_singleton, Leg.entry?_of_ended hended, Leg.entry?_of_ended failed_standing]
      rfl
    have hfirst := failed.attempt.observation_reports t (.error e)
    rw [failed_attempt, first_endpoint, ← failed_attempt] at hfirst
    have hsecond := leg.attempt.observation_reports now result
    rw [attempt] at hsecond
    obtain ⟨turns, hleast⟩ := mayTurn_of_retry retry
    obtain ⟨addr, found, least⟩ := EndpointMap.least?_spec hleast
    rw [hentries, legs]
    exact ⟨.turned hfirst turns found least (attempt ▸ hsecond),
      .cons ⟨t, _, failed_standing, rfl⟩ (.cons ⟨now, result, hended, rfl⟩ .nil)⟩

/-- A response names the endpoint of the last entry. -/
theorem Ran.endpointAddr_last (h : x.Ran config id) {now : Nat} {response : RelayResponse}
    (ended : x.standing = .ended now (.ok response)) :
    ∃ last, (Leg.entries x.legs).getLast? = some last ∧ response.endpointAddr = last.endpointAddr := by
  rcases h.shape.ended ended with ⟨-, e, he⟩ | ⟨leg, earlier, legs, ran, hended⟩
  · cases he
  · refine ⟨leg.attempt.observation now (.ok response), ?_, ?_⟩
    · rw [legs, ← List.singleton_append, Leg.entries_append, Leg.entries_singleton,
        Leg.entry?_of_ended hended]
      exact List.getLast?_concat
    · exact (ran.endpointAddr_eq hended).trans
        (leg.attempt.observation_reports now (.ok response)).endpoint.1.symm

/-- What a dispatch to `endpoint` that has ended with `result` has left behind. -/
structure Faithful (x : Delivery ω) (endpoint : Endpoint) (entries : List EndpointObservation)
    (result : Except RelayError RelayResponse) : Prop where
  gained : x.context.observed = x.origin.observed ++ entries
  /-- There is one entry for each attempt, in the order of the attempts. -/
  matched : Matches x.legs.reverse entries
  account : Account x.origin endpoint entries result
  ok_iff : ∀ last, entries.getLast? = some last →
    ((∃ response, result = .ok response) ↔ last.isError = false)
  completed : ∀ response, result = .ok response → x.context.state = .completed ∧
    ∃ last, entries.getLast? = some last ∧ last.endpointAddr = response.endpointAddr ∧
      last.httpStatusCode = some response.status ∧ last.payloadSize = some response.bytes.length
  failed : ∀ error, result = .error error → ∃ last kind, entries.getLast? = some last ∧
    last.errorKind = some kind ∧ x.context.state = .failed kind
  undisturbed : x.context.observations.requestError = none

/-- Whatever the collaborators do, a dispatch that starts with a selection and comes to its end leaves a
faithful record. -/
theorem Ran.faithful (h : x.Ran config id) (prepared : x.origin.Prepared)
    (selected : x.origin.state = .selected) {now : Nat} {result : Except RelayError RelayResponse}
    (ended : x.standing = .ended now result) :
    ∃ endpoint entries, x.origin.selected = some endpoint ∧ x.Faithful endpoint entries result := by
  obtain ⟨endpoint, hendpoint⟩ := prepared.unsent.selected selected
  have chosen := RequestContext.dispatchable_of_selected selected hendpoint
  have hnoted : x.context = x.origin.noting x.standing.state (Leg.entries x.legs) := h.noted chosen
  rw [ended] at hnoted
  obtain ⟨account, matched⟩ := h.account chosen ended
  obtain ⟨last, e, hlast, hreports⟩ := account.last
  refine ⟨endpoint, Leg.entries x.legs, hendpoint, ?_⟩
  constructor
  · exact congrArg RequestContext.observed hnoted
  · exact matched
  · exact account
  · intro last' hlast'
    cases hlast.symm.trans hlast'
    rw [← Bool.not_eq_true, hreports.isError_iff]
    cases result <;> simp
  · rintro response rfl
    obtain ⟨last', hlast', haddr⟩ := h.endpointAddr_last ended
    cases hlast.symm.trans hlast'
    obtain ⟨-, -, -, hstatus, hsize⟩ := hreports.success response rfl
    exact ⟨congrArg RequestContext.state hnoted, last, hlast, haddr.symm, hstatus, hsize⟩
  · rintro error rfl
    exact ⟨last, error.kind, hlast, (hreports.failure error rfl).1,
      congrArg RequestContext.state hnoted⟩
  · rw [hnoted]
    exact prepared.unsent.undisturbed (.inr selected)

section Example

def goOn (now : Nat) (s : Delivery Script × Relays (Ledger Script)) :
    Delivery Script × Relays (Ledger Script) :=
  match s.1.standing with
  | .running d => s.1.resume d now 0 s.2
  | _ => s

theorem Ran.goOn {s : Delivery Script × Relays (Ledger Script)} (h : s.1.Ran config 0) (now : Nat) :
    (goOn now s).1.Ran config 0 ∧ (goOn now s).1.origin = s.1.origin := by
  unfold Delivery.goOn
  split
  · next d running => exact ⟨h.resume running now s.2, rfl⟩
  · exact ⟨h, rfl⟩

def turnedOver : Delivery Script :=
  (goOn 50 (goOn 20 (begin Relaying.rolloverConfig 0 0 ⟨[], "", .jsonRpc, some 50⟩
    Relaying.rolloverContext (Relaying.start Relaying.rolloverConfig default
      Relaying.tardyScript).relays))).1

def outcome? (x : Delivery Script) : Option (Nat × Bool) :=
  match x.standing with
  | .ended now result => some (now, result.isOk)
  | _ => none

theorem turnedOver_ran : turnedOver.Ran Relaying.rolloverConfig 0 ∧ turnedOver.origin.Prepared := by
  have hbegun : (begin Relaying.rolloverConfig 0 0 ⟨[], "", .jsonRpc, some 50⟩ Relaying.rolloverContext
      (Relaying.start Relaying.rolloverConfig default Relaying.tardyScript).relays).1.Ran
        Relaying.rolloverConfig 0 := .begin ..
  obtain ⟨hfirst, hfirst_origin⟩ := Ran.goOn hbegun 20
  obtain ⟨hsecond, hsecond_origin⟩ := Ran.goOn hfirst 50
  refine ⟨hsecond, ?_⟩
  rw [show turnedOver.origin = Relaying.rolloverContext from hsecond_origin.trans hfirst_origin]
  exact .select (.new default "eth" _ _ true) _

/-- The failure of the first attempt and the success of the second are both on record. -/
theorem faithful_turned_over : turnedOver.Ran Relaying.rolloverConfig 0 ∧
    turnedOver.origin.Prepared ∧ turnedOver.origin.state = .selected ∧
    (turnedOver.context.observed.map fun o => (o.endpointAddr.text, o.errorKind)) =
      [("node-https://node", some .timeout), ("fallback-https://spare", none)] ∧
    ∃ now response endpoint entries, turnedOver.standing = .ended now (.ok response) ∧
      turnedOver.origin.selected = some endpoint ∧
      turnedOver.Faithful endpoint entries (.ok response) := by
  obtain ⟨hran, hprepared⟩ := turnedOver_ran
  have hstate : turnedOver.origin.state = .selected := by decide +kernel
  have hends : turnedOver.outcome? = some (50, true) := by decide +kernel
  refine ⟨hran, hprepared, hstate, by decide +kernel, ?_⟩
  unfold outcome? at hends
  split at hends
  · next now result hstanding =>
    cases result with
    | error e => cases hends
    | ok response =>
      obtain ⟨endpoint, entries, hselected, hfaithful⟩ := hran.faithful hprepared hstate hstanding
      exact ⟨now, response, endpoint, entries, hstanding, hselected, hfaithful⟩
  · cases hends

end Example

end Delivery
end RelayGateway
