import RelayGateway.Process.World

/-! # Calls

Activities that end by themselves: taking permits, computing signatures, asking the chain, and
carrying requests.
-/
namespace RelayGateway.World
variable {ω : Type}

/-! ## Permits -/

def awaitPermit (now : Nat) (id : ProcessId) (timeout deadline : Nat) (w : World ω) : WorldTurn ω :=
  let r := { w.gateway.relays with limiter := w.gateway.limiter.take id }
  if r.limiter.holds id then (w.withRelays r).finish now id (.acquired true) []
  else if deadline ≤ now then
    let r := r.withdraw id
    (w.withRelays r).finish now id (.acquired false) r.woken
  else (w.withRelays r).waitOn (.acquire timeout (some deadline)) [deadline] []

def requestPermit (id : ProcessId) (w : World ω) : World ω :=
  { w with gateway := { w.gateway with limiter := w.gateway.limiter.request id } }

def runAcquire (now : Nat) (id : ProcessId) (timeout : Nat) (deadline : Option Nat) (w : World ω) :
    WorldTurn ω :=
  match deadline with
  | some deadline => awaitPermit now id timeout deadline w
  | none => awaitPermit now id timeout (now + timeout) (w.requestPermit id)

def endHold (now : Nat) (id : ProcessId) (w : World ω) : WorldTurn ω :=
  let r := w.gateway.relays.release id
  (w.withRelays r).finish now id .ended r.woken

def holdOn (now : Nat) (id : ProcessId) (duration till : Nat) (w : World ω) : WorldTurn ω :=
  if till ≤ now then w.endHold now id else w.waitOn (.hold duration (.holding till)) [till] []

def awaitHold (now : Nat) (id : ProcessId) (duration : Nat) (w : World ω) : WorldTurn ω :=
  let w := w.withRelays { w.gateway.relays with limiter := w.gateway.limiter.take id }
  if w.gateway.limiter.holds id then w.holdOn now id duration (now + duration)
  else w.waitOn (.hold duration .waiting) [] []

def runHold (now : Nat) (id : ProcessId) (duration : Nat) (stage : HoldStage) (w : World ω) :
    WorldTurn ω :=
  match stage with
  | .starting => (w.requestPermit id).awaitHold now id duration
  | .waiting => w.awaitHold now id duration
  | .holding till => w.holdOn now id duration till

/-! ## Signatures -/

def withSignatures (w : World ω) (s : SignatureCache.Step) : World ω :=
  { w with gateway := { w.gateway with signatures := s.cache } }

def awaitComputation (now : Nat) (id : ProcessId) (plan : SignaturePlan) (woken : List ProcessId)
    (answer : Pending (Except SignerError SignedRelay)) (w : World ω) : WorldTurn ω :=
  match answer.ready? now with
  | some result =>
    let s := w.gateway.signatures.finish id result
    (w.withSignatures s).finish now id (.signed result) (woken ++ s.woken)
  | none => w.waitOn (.signature plan (.computing answer)) answer.due.toList woken

def afterSignatureStep (now : Nat) (id : ProcessId) (plan : SignaturePlan) (s : SignatureCache.Step)
    (w : World ω) : WorldTurn ω :=
  let w := w.withSignatures s
  match s.progress with
  | .done result => w.finish now id (.signed result) s.woken
  | .wait => w.waitOn (.signature plan .sharing) [] s.woken
  | .compute =>
    awaitComputation now id plan s.woken (.after now plan.delay plan.result)
      { w with computations := w.computations + 1 }

def runSignature (now : Nat) (id : ProcessId) (plan : SignaturePlan) (stage : SignatureStage)
    (w : World ω) : WorldTurn ω :=
  match stage with
  | .starting =>
    afterSignatureStep now id plan (w.gateway.signatures.begin id plan.request plan.app) w
  | .sharing => afterSignatureStep now id plan (w.gateway.signatures.resume id) w
  | .computing answer => awaitComputation now id plan [] answer w

/-! ## The chain -/

def heightResult? (now : Nat) (answer : Pending (Except ChainError Nat)) (deadline : Nat) :
    Option (Except ChainError Nat) :=
  match answer.ready? now with
  | some result => some result
  | none => if deadline ≤ now then some (.error .timeout) else none

def noteHeight (w : World ω) (result : Except ChainError Nat) : World ω :=
  match result with
  | .ok height =>
    { w with gateway := { w.gateway with
        rollover := w.gateway.rollover.map fun m => m.recordHeight height } }
  | .error _ => w

variable [Collaborators ω]

def afterRefresh (now : Nat) (id : ProcessId) (w : World ω) (s : ChainView ω × RefreshProgress) :
    WorldTurn ω :=
  let w' := w.withView s.1
  match s.2 with
  | .waiting stage => w'.waitOn (.refresh (some stage)) (Refresh.alarms stage) s.1.woken
  | .done result => w'.finish now id (.refreshed result) s.1.woken

def runRefresh (now : Nat) (id : ProcessId) (stage : Option RefreshStage) (w : World ω) :
    WorldTurn ω :=
  match stage with
  | none => afterRefresh now id w (Refresh.start now w.gateway.view)
  | some stage => afterRefresh now id w (Refresh.resume now w.gateway.view stage)

def startQuery (now : Nat) (id : ProcessId) (target : QueryTarget) (v : ChainView ω) :
    ChainView ω × QueryProgress :=
  match target with
  | .app address => Query.getApp now id address v
  | .key address => Query.getKey now id address v
  | .session service appAddress => Query.getSession now id service appAddress v

def runQuery (now : Nat) (id : ProcessId) (target : QueryTarget) (stage : Option QueryStage)
    (w : World ω) : WorldTurn ω :=
  let (v, progress) :=
    match stage with
    | none => startQuery now id target w.gateway.view
    | some stage => Query.resume now id w.gateway.view stage
  let w := w.withView v
  match progress with
  | .waiting stage => w.waitOn (.query target (some stage)) (Query.alarms stage) v.woken
  | .done result => w.finish now id (.answered result) v.woken

def askHeight (now : Nat) (w : World ω) : World ω × Pending (Except ChainError Nat) × Nat :=
  let (answer, outside) := Collaborators.blockHeight now w.gateway.outside
  let timeout :=
    match w.gateway.rollover with
    | some m => m.config.callTimeout
    | none => 0
  ({ w with gateway := { w.gateway with outside } }, answer, now + timeout)

def runPoll (now : Nat) (id : ProcessId) (waiting : Option (Pending (Except ChainError Nat) × Nat))
    (w : World ω) : WorldTurn ω :=
  let (w, answer, deadline) :=
    match waiting with
    | some (answer, deadline) => (w, answer, deadline)
    | none => w.askHeight now
  match heightResult? now answer deadline with
  | some result => (w.noteHeight result).finish now id (.polled result) []
  | none => w.waitOn (.poll (some (answer, deadline))) (answer.due.toList ++ [deadline]) []

/-! ## Requests -/

def dropTime? (plan : DispatchPlan) : Option Nat := plan.dropAfter.map (plan.startAt + ·)

def afterDispatch (now : Nat) (id : ProcessId) (plan : DispatchPlan) (w : World ω)
    (s : RequestContext × Relays ω × DispatchProgress) : WorldTurn ω :=
  let (c, r, progress) := s
  let w := { w with contexts := w.contexts.insert plan.context c }
  match progress with
  | .done result => (w.withRelays r).finish now id (.dispatched result) r.woken
  | .waiting d =>
    if (dropTime? plan).any (· ≤ now) then
      let r := d.drop id r
      (w.withRelays r).finish now id .dropped r.woken
    else
      (w.withRelays r).waitOn (.dispatch plan (some d)) (d.alarms ++ (dropTime? plan).toList) r.woken

def runDispatch (now : Nat) (id : ProcessId) (plan : DispatchPlan) (running : Option Dispatch)
    (w : World ω) : WorldTurn ω :=
  if now < plan.startAt then w.waitOn (.dispatch plan none) [plan.startAt] []
  else
    match w.contexts.find? plan.context with
    | none => w.finish now id .dropped []
    | some c =>
      match running with
      | none =>
        afterDispatch now id plan w
          (Dispatch.begin w.gateway.relayConfig now id plan.payload c w.gateway.relays)
      | some d => afterDispatch now id plan w (d.resume now id c w.gateway.relays)

end RelayGateway.World
