import RelayGateway.Process.Call

/-! # Background tasks

Each task works in its own rhythm until a message tells it to stop. The message counts between ticks
only: work that has begun is finished.
-/
namespace RelayGateway.World
variable {ω : Type}

def channelOf (owned : Bool) (w : World ω) : Channel :=
  if owned then w.lifecycle.channel else w.stopping

def endLoop (now : Nat) (id : ProcessId) (w : World ω) : WorldTurn ω :=
  let w := { w with lifecycle := w.lifecycle.noteEnded id, stopping := w.stopping.unsubscribe id }
  w.finish now id .ended w.lifecycle.joining

/-- Between ticks; a message or a tick that is there already is taken in the next turn. -/
def idle (now : Nat) (id : ProcessId) (task : BackgroundTask) (owned : Bool) (ticks : Interval)
    (woken : List ProcessId) (w : World ω) : WorldTurn ω :=
  w.waitOn (.loop task owned (.idle ticks)) [ticks.next]
    (if ticks.isDue now || (w.channelOf owned).hasMessage id then woken ++ [id] else woken)

/-- The rhythm of a task. The sweep of the sanctions leaves its first tick out. -/
def rhythm (now : Nat) (task : BackgroundTask) (w : World ω) : Interval :=
  match task with
  | .refresh => Interval.start now w.gateway.cache.config.refreshInterval .delay
  | .rollover =>
    Interval.start now ((w.gateway.rollover.map fun m => m.config.pollInterval).getD 1000) .burst
  | .sanctionSweep => (Interval.start now w.gateway.sanctions.config.sweepInterval .skip).tick now
  | .signatureSweep => Interval.start now w.gateway.signatures.config.sweepInterval .skip

def loopRefresh (now : Nat) (id : ProcessId) (owned : Bool) (ticks : Interval) (w : World ω)
    (s : ChainView ω × RefreshProgress) : WorldTurn ω :=
  let w := w.withView s.1
  match s.2 with
  | .waiting stage =>
    w.waitOn (.loop .refresh owned (.refreshing ticks stage)) (Refresh.alarms stage) s.1.woken
  | .done _ => idle now id .refresh owned ticks s.1.woken w

def loopPoll (now : Nat) (id : ProcessId) (owned : Bool) (ticks : Interval)
    (s : World ω × Pending (Except ChainError Nat) × Nat) : WorldTurn ω :=
  let (w, answer, deadline) := s
  match heightResult? now answer deadline with
  | some result => idle now id .rollover owned ticks [] (w.noteHeight result)
  | none =>
    w.waitOn (.loop .rollover owned (.polling ticks answer deadline))
      (answer.due.toList ++ [deadline]) []

variable [Collaborators ω]

def takeTick (now : Nat) (id : ProcessId) (task : BackgroundTask) (owned : Bool) (ticks : Interval)
    (w : World ω) : WorldTurn ω :=
  let ticks := ticks.tick now
  match task with
  | .refresh => loopRefresh now id owned ticks w (Refresh.start now w.gateway.view)
  | .rollover => loopPoll now id owned ticks (w.askHeight now)
  | .sanctionSweep =>
    idle now id task owned ticks []
      { w with gateway := { w.gateway with sanctions := w.gateway.sanctions.sweep now } }
  | .signatureSweep =>
    idle now id task owned ticks []
      { w with gateway := { w.gateway with signatures := w.gateway.signatures.sweep } }

def runIdle (now : Nat) (id : ProcessId) (task : BackgroundTask) (owned : Bool) (ticks : Interval)
    (w : World ω) : WorldTurn ω :=
  if (w.channelOf owned).hasMessage id then w.endLoop now id
  else if ticks.isDue now then takeTick now id task owned ticks w
  else idle now id task owned ticks [] w

def runLoop (now : Nat) (id : ProcessId) (task : BackgroundTask) (owned : Bool) (stage : LoopStage)
    (w : World ω) : WorldTurn ω :=
  match stage with
  | .starting => runIdle now id task owned (w.rhythm now task) w
  | .idle ticks => runIdle now id task owned ticks w
  | .refreshing ticks stage =>
    loopRefresh now id owned ticks w (Refresh.resume now w.gateway.view stage)
  | .polling ticks answer deadline => loopPoll now id owned ticks (w, answer, deadline)

end RelayGateway.World
