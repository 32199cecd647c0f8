import RelayGateway.Process.World

/-! # Shutdown

The first shutdown tells everyone and waits for the tasks of the runtime; others wait for a message
and may then shut down themselves.
-/
namespace RelayGateway.World
variable {ω : Type}

def join (now : Nat) (id : ProcessId) (ids : List ProcessId) (again : List ProcessId → Activity)
    (woken : List ProcessId) (w : World ω) : WorldTurn ω :=
  if w.lifecycle.allEnded ids then
    let l := w.lifecycle
    let l := { l with joining := l.joining.filter (· ≠ id), channel := l.channel.unsubscribe id }
    { w with lifecycle := l }.finish now id .ended woken
  else w.waitOn (again ids) [] woken

/-- A shutdown after the first has nothing to wait for. -/
def startShutdown (now : Nat) (id : ProcessId) (again : List ProcessId → Activity) (w : World ω) :
    WorldTurn ω :=
  let l := w.lifecycle
  if l.shutdown then join now id [] again [] w
  else
    let l' := l.initiate
    join now id l.owned again l.channel.subscribers
      { w with lifecycle := { l' with joining := id :: l'.joining } }

def runShutdown (now : Nat) (id : ProcessId) (joining : Option (List ProcessId)) (w : World ω) :
    WorldTurn ω :=
  match joining with
  | none => startShutdown now id (fun ids => .shutdown (some ids)) w
  | some ids => join now id ids (fun ids => .shutdown (some ids)) [] w

def runWaitForShutdown (now : Nat) (id : ProcessId) (subscribed : Bool)
    (joining : Option (List ProcessId)) (w : World ω) : WorldTurn ω :=
  match joining with
  | some ids => join now id ids (fun ids => .waitForShutdown true (some ids)) [] w
  | none =>
    if subscribed then
      if w.lifecycle.channel.hasMessage id then
        startShutdown now id (fun ids => .waitForShutdown true (some ids)) w
      else w.waitOn (.waitForShutdown true none) [] []
    else
      { w with lifecycle := { w.lifecycle with
          channel := w.lifecycle.channel.subscribe id } }.waitOn (.waitForShutdown true none) [] []

def runListen (now : Nat) (id : ProcessId) (w : World ω) : WorldTurn ω :=
  if w.lifecycle.channel.hasMessage id then
    { w with lifecycle := { w.lifecycle with
        channel := w.lifecycle.channel.unsubscribe id } }.finish now id .ended []
  else w.waitOn .listen [] []

end RelayGateway.World
