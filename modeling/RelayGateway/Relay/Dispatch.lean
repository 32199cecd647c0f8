import RelayGateway.Relay.Attempt
import RelayGateway.Relay.Context

/-! # Dispatching a request

A dispatch makes one attempt at the selected endpoint. In rollover, when there are fallback
endpoints, an attempt at a protocol endpoint gets a shorter time, and if it fails one more attempt is
made at the fallback with the least address, under the deadline of the whole request.
-/
namespace RelayGateway

structure Dispatch where
  payload : RelayPayload
  /-- The deadline of the whole request. -/
  deadline : Nat
  attempt : Attempt
  stage : AttemptStage
  /-- The endpoint to turn to when the attempt fails. -/
  retry : Option Endpoint

inductive DispatchProgress where
  | waiting (dispatch : Dispatch)
  | done (result : Except RelayError RelayResponse)

namespace Dispatch
variable {ω : Type}

def conclude (c : RequestContext) (result : Except RelayError RelayResponse) : RequestContext :=
  { c with state := RequestContext.stateAfter result }

def afterLast (now : Nat) (payload : RelayPayload) (deadline : Nat) (a : Attempt) (c : RequestContext)
    (s : Relays ω × AttemptProgress) : RequestContext × Relays ω × DispatchProgress :=
  match s with
  | (r, .waiting stage) => (c, r, .waiting ⟨payload, deadline, a, stage, none⟩)
  | (r, .done result) => (conclude (c.observe (a.observation now result)) result, r, .done result)

def attemptAt (e : Endpoint) (payload : RelayPayload) (now deadline : Nat) : Attempt :=
  ⟨e, targetUrl e payload, payload.data, now, deadline⟩

variable [Collaborators ω]

def afterFirst (now : Nat) (id : ProcessId) (payload : RelayPayload) (deadline : Nat) (a : Attempt)
    (fallback : Endpoint) (c : RequestContext) (s : Relays ω × AttemptProgress) :
    RequestContext × Relays ω × DispatchProgress :=
  match s with
  | (r, .waiting stage) => (c, r, .waiting ⟨payload, deadline, a, stage, some fallback⟩)
  | (r, .done (.ok response)) =>
    (conclude (c.observe (a.observation now (.ok response))) (.ok response), r, .done (.ok response))
  | (r, .done (.error e)) =>
    let second := attemptAt fallback payload now deadline
    afterLast now payload deadline second (c.observe (a.observation now (.error e)))
      (second.start now id r)

/-- After a step of the attempt at hand; `retry` is the endpoint to turn to when it fails. -/
def advance (now : Nat) (id : ProcessId) (payload : RelayPayload) (deadline : Nat) (a : Attempt)
    (retry : Option Endpoint) (c : RequestContext) (s : Relays ω × AttemptProgress) :
    RequestContext × Relays ω × DispatchProgress :=
  match retry with
  | some fallback => afterFirst now id payload deadline a fallback c s
  | none => afterLast now payload deadline a c s

def timeoutOf (config : RelayConfig) (payload : RelayPayload) : Nat :=
  payload.timeout.getD config.defaultTimeout

def first (config : RelayConfig) (now : Nat) (payload : RelayPayload) (c : RequestContext)
    (endpoint : Endpoint) : Attempt × Option Endpoint :=
  let timeout := timeoutOf config payload
  match if endpoint.isFallback then none else c.rolloverFallback? with
  | some fallback =>
    (attemptAt endpoint payload now (now + min timeout config.rolloverFallbackWait), some fallback)
  | none => (attemptAt endpoint payload now (now + timeout), none)

/-- Starts the dispatch of a context in which an endpoint is selected. In any other state the context
stays as it is and no collaborator is called. -/
def begin (config : RelayConfig) (now : Nat) (id : ProcessId) (payload : RelayPayload)
    (c : RequestContext) (r : Relays ω) : RequestContext × Relays ω × DispatchProgress :=
  match c.dispatchable with
  | .error e => (c, r, .done (.error e))
  | .ok endpoint =>
    let (a, retry) := first config now payload c endpoint
    advance now id payload (now + timeoutOf config payload) a retry { c with state := .dispatched }
      (a.start now id r)

def resume (now : Nat) (id : ProcessId) (d : Dispatch) (c : RequestContext) (r : Relays ω) :
    RequestContext × Relays ω × DispatchProgress :=
  advance now id d.payload d.deadline d.attempt d.retry c (d.attempt.resume now id r d.stage)

/-- The dispatch is dropped where it waits; the context stays dispatched. -/
def drop (id : ProcessId) (d : Dispatch) (r : Relays ω) : Relays ω := Attempt.drop id r d.stage

def alarms (d : Dispatch) : List Nat := d.attempt.alarms d.stage

end Dispatch
end RelayGateway
