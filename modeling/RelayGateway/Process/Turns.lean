import RelayGateway.Process.Background
import RelayGateway.Process.Call
import RelayGateway.Process.Shutdown

/-! # Turns

What an activity does in one turn, and what is left of it when it is dropped.
-/
namespace RelayGateway.World
variable {ω : Type}

def run [Collaborators ω] : Behaviour (World ω) Activity := fun now id a w =>
  match a with
  | .refresh stage => runRefresh now id stage w
  | .query target stage => runQuery now id target stage w
  | .poll waiting => runPoll now id waiting w
  | .dispatch plan running => runDispatch now id plan running w
  | .acquire timeout deadline => runAcquire now id timeout deadline w
  | .hold duration stage => runHold now id duration stage w
  | .signature plan stage => runSignature now id plan stage w
  | .loop task owned stage => runLoop now id task owned stage w
  | .listen => runListen now id w
  | .shutdown joining => runShutdown now id joining w
  | .waitForShutdown subscribed joining => runWaitForShutdown now id subscribed joining w

/-- An activity is dropped where it waits; what it held or waited for goes to others. -/
def dropActivity (id : ProcessId) (a : Activity) (w : World ω) : World ω × List ProcessId :=
  let r := w.gateway.relays
  let r :=
    match a with
    | .dispatch _ (some d) => d.drop id r
    | .acquire _ (some _) => r.withdraw id
    | .hold _ .waiting => r.withdraw id
    | .hold _ (.holding _) => r.release id
    | .signature _ .sharing => r.cancelSignature id
    | .signature _ (.computing _) => r.cancelSignature id
    | _ => r
  (w.withRelays r, r.woken)

end RelayGateway.World
