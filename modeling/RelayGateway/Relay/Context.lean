import RelayGateway.Relay.Observation
import RelayGateway.Relay.Payload
import RelayGateway.Relay.Selector

/-! # Request contexts

A context carries one client request. It is built over the candidates that are offered, an endpoint
is selected among them, the payload is dispatched once, and every attempt leaves an observation. A
failed selection ends the request before any endpoint is contacted.
-/
namespace RelayGateway

inductive ContextState where
  | built
  | selected
  | dispatched
  | completed
  | failed (kind : EndpointErrorKind)
deriving DecidableEq, Inhabited

def ContextState.isTerminal : ContextState → Bool
  | completed => true
  | failed _ => true
  | _ => false

structure RequestContext where
  requestId : Uuid
  service : ServiceId
  endpoints : EndpointMap
  fallbacks : EndpointMap
  inRollover : Bool
  state : ContextState
  selected : Option Endpoint
  observations : RequestObservations

namespace RequestContext

/-- A context over candidates that are not sanctioned. The fallbacks serve for retries in rollover
alone. -/
def new (requestId : Uuid) (service : ServiceId) (endpoints fallbacks : EndpointMap)
    (inRollover : Bool) : RequestContext :=
  ⟨requestId, service, endpoints, fallbacks, inRollover, .built, none,
    RequestObservations.none requestId service⟩

def candidates (c : RequestContext) : List EndpointAddr := EndpointMap.sortedAddrs c.endpoints

def failRequest (c : RequestContext) (kind : RequestErrorKind) (e : RelayError) : RequestContext :=
  { c with observations := { c.observations with requestError := some ⟨kind, e.message⟩ },
           state := .failed .internal }

/-- Chooses the endpoint to dispatch to. The choice is asked for only when there are candidates, and
must be one of them. -/
def selectEndpoint (c : RequestContext)
    (choose : List EndpointAddr → Except String EndpointAddr) :
    RequestContext × Except RelayError Endpoint :=
  if c.state = .built ∨ c.state = .selected then
    if c.candidates = [] then
      let e := RelayError.noEndpoints c.service
      (c.failRequest .noEndpoints e, .error e)
    else
      match choose c.candidates with
      | .error reason =>
        let e := RelayError.selectionFailed c.service reason
        (c.failRequest .endpointSelection e, .error e)
      | .ok addr =>
        match c.endpoints.find? addr with
        | none =>
          let e := RelayError.endpointNotFound addr c.service
          (c.failRequest .endpointSelection e, .error e)
        | some endpoint => ({ c with state := .selected, selected := some endpoint }, .ok endpoint)
  else (c, .error (.alreadyDispatched c.service))

def dispatchable (c : RequestContext) : Except RelayError Endpoint :=
  if c.state = .selected then
    match c.selected with
    | some e => .ok e
    | none => .error (.noEndpointSelected c.service)
  else if c.state = .built then .error (.noEndpointSelected c.service)
  else .error (.alreadyDispatched c.service)

/-- The fallback endpoint that a failed attempt turns to: in rollover, the one with the least
address. -/
def rolloverFallback? (c : RequestContext) : Option Endpoint :=
  if c.inRollover then EndpointMap.least? c.fallbacks else none

def observe (c : RequestContext) (o : EndpointObservation) : RequestContext :=
  { c with observations :=
      { c.observations with endpointObservations := c.observations.endpointObservations ++ [o] } }

def stateAfter (result : Except RelayError RelayResponse) : ContextState :=
  match result with
  | .ok _ => .completed
  | .error e => .failed e.kind

end RequestContext
end RelayGateway
