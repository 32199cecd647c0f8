import RelayGateway.Cache.Query
import RelayGateway.Cache.Refresh
import RelayGateway.Gateway
import RelayGateway.Process.Interval
import RelayGateway.Process.Lifecycle
import RelayGateway.Relay.Dispatch

/-! # A gateway in operation

Everything that takes time is an activity: a refresh, a query, a dispatch, a background task. The
activities share one world: the gateway, the contexts of the requests, and what has come of the
activities that have ended. A turn of an activity lasts until it has to wait.
-/
namespace RelayGateway

inductive Outcome where
  | refreshed (result : Except CacheError RefreshStats)
  | answered (result : Except CacheError QueryAnswer)
  | polled (result : Except ChainError Nat)
  | dispatched (result : Except RelayError RelayResponse)
  | dropped
  | acquired (success : Bool)
  | signed (result : Except SignerError SignedRelay)
  | ended
deriving Inhabited

structure World (ω : Type) where
  gateway : Gateway ω
  contexts : Table String RequestContext
  rotation : RoundRobin
  lifecycle : Lifecycle
  /-- Stops the tasks that the runtime does not own. -/
  stopping : Channel
  /-- How many signatures were computed by calls that bring their own computation. -/
  computations : Nat
  /-- Ended activities with the time of their end, in order. -/
  outcomes : List (ProcessId × Nat × Outcome)

inductive QueryTarget where
  | app (address : String)
  | key (address : String)
  | session (service : ServiceId) (appAddress : String)

structure DispatchPlan where
  context : String
  payload : RelayPayload
  startAt : Nat
  dropAfter : Option Nat

structure SignaturePlan where
  request : RelayRequest
  app : Application
  delay : Nat
  result : Except SignerError SignedRelay

inductive SignatureStage where
  | starting
  | sharing
  | computing (answer : Pending (Except SignerError SignedRelay))

inductive LoopStage where
  | starting
  | idle (ticks : Interval)
  | refreshing (ticks : Interval) (stage : RefreshStage)
  | polling (ticks : Interval) (answer : Pending (Except ChainError Nat)) (deadline : Nat)

inductive HoldStage where
  | starting
  | waiting
  | holding (till : Nat)

inductive Activity where
  | refresh (stage : Option RefreshStage)
  | query (target : QueryTarget) (stage : Option QueryStage)
  | poll (waiting : Option (Pending (Except ChainError Nat) × Nat))
  | dispatch (plan : DispatchPlan) (running : Option Dispatch)
  /-- Wants a permit for some time, that is until a deadline, and keeps it. -/
  | acquire (timeout : Nat) (deadline : Option Nat)
  /-- Takes a permit as soon as there is one, and gives it back after some time. -/
  | hold (duration : Nat) (stage : HoldStage)
  | signature (plan : SignaturePlan) (stage : SignatureStage)
  | loop (task : BackgroundTask) (owned : Bool) (stage : LoopStage)
  /-- Waits for one message of the runtime's channel. -/
  | listen
  /-- Shuts the runtime down; `joining` are the tasks whose end it waits for. -/
  | shutdown (joining : Option (List ProcessId))
  /-- Waits for a message, then shuts down. -/
  | waitForShutdown (subscribed : Bool) (joining : Option (List ProcessId))

namespace World
variable {ω : Type}

def new (config : GatewayConfig) (outside : ω) : World ω :=
  ⟨Gateway.new config outside, ∅, RoundRobin.new, Lifecycle.new, Channel.empty, 0, []⟩

abbrev WorldTurn (ω : Type) := Turn (World ω) Activity

def withView (w : World ω) (v : ChainView ω) : World ω := { w with gateway := w.gateway.withView v }

def withRelays (w : World ω) (r : Relays ω) : World ω := { w with gateway := w.gateway.withRelays r }

def finish (w : World ω) (now : Nat) (id : ProcessId) (o : Outcome) (woken : List ProcessId) :
    WorldTurn ω :=
  ⟨{ w with outcomes := w.outcomes ++ [(id, now, o)] }, none, [], woken⟩

def waitOn (w : World ω) (a : Activity) (alarms : List Nat) (woken : List ProcessId) : WorldTurn ω :=
  ⟨w, some a, alarms, woken⟩

end World
end RelayGateway
