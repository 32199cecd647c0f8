import RelayGateway.Process.Turns

/-! # Operating a gateway

A gateway in operation is its world under a clock. Some things are done at once, some take time: those
are performed to their end while everything else goes on. After each of them all that can run at that
moment has run.
-/
namespace RelayGateway

abbrev Operation (ω : Type) := Schedule (World ω) Activity

namespace Operation
variable {ω : Type} [Collaborators ω]

/-- Far more turns than any operation takes. -/
def fuel : Nat := 1000000000

def begin (config : GatewayConfig) (outside : ω) : Operation ω :=
  Schedule.start (World.new config outside)

def world (o : Operation ω) : World ω := o.shared

def modify (o : Operation ω) (f : World ω → World ω) : Operation ω := { o with shared := f o.shared }

def gateway (o : Operation ω) : Gateway ω := o.shared.gateway

def modifyGateway (o : Operation ω) (f : Gateway ω → Gateway ω) : Operation ω :=
  o.modify fun w => { w with gateway := f w.gateway }

def settled (o : Operation ω) : Operation ω := Schedule.settle World.run fuel o

def sleep (o : Operation ω) (ms : Nat) : Operation ω :=
  settled (Schedule.runUntil World.run (o.now + ms) fuel o)

def launch (o : Operation ω) (a : Activity) : Operation ω × ProcessId :=
  let (o, id) := Schedule.spawn o a
  (settled o, id)

def outcome? (o : Operation ω) (id : ProcessId) : Option (Nat × Outcome) :=
  o.world.outcomes.lookup id

/-- Performs activities side by side until all have ended; gives the end of each. -/
def performAll (o : Operation ω) (activities : List Activity) :
    Operation ω × List (Option (Nat × Outcome)) :=
  let (o, ids) := activities.foldl (fun (o, ids) a =>
    let (o, id) := Schedule.spawn o a
    (o, ids ++ [id])) (o, [])
  let o := settled (Schedule.await World.run ids fuel o)
  (o, ids.map (outcome? o))

def perform (o : Operation ω) (a : Activity) : Operation ω × Option Outcome :=
  let (o, id) := Schedule.spawn o a
  let o := settled (Schedule.await World.run [id] fuel o)
  (o, (outcome? o id).map Prod.snd)

def abort (o : Operation ω) (id : ProcessId) : Operation ω :=
  match Schedule.process? o id with
  | none => o
  | some a =>
    let (w, woken) := o.shared.dropActivity id a
    settled (Schedule.wake (Schedule.remove { o with shared := w } id) woken)

def releasePermit (o : Operation ω) (id : ProcessId) : Operation ω :=
  let r := o.gateway.relays.release id
  settled (Schedule.wake (o.modify fun w => w.withRelays r) r.woken)

/-! ## Background tasks -/

def startTask (owned : Bool) (o : Operation ω) (task : BackgroundTask) : Operation ω × ProcessId :=
  let (o, id) := Schedule.spawn o (.loop task owned .starting)
  let o : Operation ω := o
  (o.modify fun w =>
    let l := w.lifecycle.noteStarted task id
    if owned then { w with lifecycle := l.own id }
    else { w with lifecycle := l, stopping := w.stopping.subscribe id }, id)

/-- Starts a task outside of the runtime, unless it was ever started. -/
def startAlone (o : Operation ω) (task : BackgroundTask) : Operation ω × Option ProcessId :=
  let disabled := task = .signatureSweep && !o.gateway.signatures.config.enabled
  if disabled || o.world.lifecycle.started.contains task then (o, none)
  else
    let (o, id) := startTask false o task
    (settled o, some id)

def startRuntime (o : Operation ω) : Operation ω × Nat :=
  let tasks := o.world.lifecycle.startable o.gateway.signatures.config.enabled
  (tasks.foldl (fun o task => (startTask true o task).1) o, tasks.length)

def stopAlone (o : Operation ω) : Operation ω × Nat :=
  let told := o.world.stopping.subscribers
  let o : Operation ω := o.modify fun w => { w with stopping := w.stopping.send }
  (settled (Schedule.wake o told), told.length)

def signal (o : Operation ω) : Operation ω × Nat :=
  let told := o.world.lifecycle.channel.subscribers
  let o : Operation ω := o.modify fun w =>
    { w with lifecycle := { w.lifecycle with channel := w.lifecycle.channel.send } }
  (settled (Schedule.wake o told), told.length)

/-- Someone outside subscribes to the runtime's channel and waits for one message. -/
def listen (o : Operation ω) : Operation ω × ProcessId :=
  let (o, id) := Schedule.spawn o .listen
  let o : Operation ω := o
  (settled (o.modify fun w =>
    { w with lifecycle := { w.lifecycle with channel := w.lifecycle.channel.subscribe id } }), id)

def hasEnded (o : Operation ω) (id : ProcessId) : Bool := !Schedule.isRunning o id

/-! ## Requests -/

def build (o : Operation ω) (name : String) (service : ServiceId) (m : RequestMetadata) :
    Operation ω × Except NoEndpoints RequestContext :=
  let (g, result) := o.gateway.buildContext o.now service m
  match result with
  | .ok c => (o.modify fun w => { w with gateway := g, contexts := w.contexts.insert name c }, .ok c)
  | .error e => (o.modify fun w => { w with gateway := g }, .error e)

def newContext (o : Operation ω) (name : String) (service : ServiceId) (offer : Gateway.Offer) :
    Operation ω :=
  let (g, c) := o.gateway.newContext service offer
  o.modify fun w => { w with gateway := g, contexts := w.contexts.insert name c }

/-- Selects an endpoint of a context. Only a choice that was asked for uses up a turn. -/
def select (o : Operation ω) (name : String) (c : RequestContext) (s : Selector) :
    Operation ω × RequestContext × Except RelayError Endpoint :=
  let rotation := o.world.rotation
  let (c', result) :=
    c.selectEndpoint fun candidates => s.choose (fun l => (rotation.select l).2) candidates
  let asked := c.state = .built ∨ c.state = .selected
  let rotation :=
    match s with
    | .roundRobin => if asked then (rotation.select c.candidates).1 else rotation
    | _ => rotation
  (o.modify fun w => { w with rotation, contexts := w.contexts.insert name c' }, c', result)

def applyObservations (o : Operation ω) (observations : RequestObservations) : Operation ω :=
  o.modifyGateway fun g => g.applyObservations o.now observations

end Operation
end RelayGateway
