import RelayGateway.Schedule
import RelayGateway.Table

/-! # Lifecycle

Four background tasks keep a gateway current. Each is started at most once. They are told to stop
through a channel: a message reaches everyone who is subscribed when it is sent. A shutdown is
initiated once; it sends the message, gives up the tasks it owns and waits until they have ended.
-/
namespace RelayGateway

/-- The subscribers of a channel, and whether a message waits for each. -/
structure Channel where
  receivers : Table ProcessId Bool

namespace Channel

def empty : Channel := ⟨∅⟩

def subscribe (c : Channel) (id : ProcessId) : Channel := ⟨c.receivers.insert id false⟩

def unsubscribe (c : Channel) (id : ProcessId) : Channel := ⟨c.receivers.erase id⟩

def hasMessage (c : Channel) (id : ProcessId) : Bool := (c.receivers.find? id).getD false

def send (c : Channel) : Channel := ⟨c.receivers.mapValues fun _ => true⟩

def subscribers (c : Channel) : List ProcessId := c.receivers.keys

end Channel

inductive BackgroundTask where
  | refresh
  | rollover
  | sanctionSweep
  | signatureSweep
deriving DecidableEq, Inhabited

structure Lifecycle where
  /-- The tasks that were ever started. -/
  started : List BackgroundTask
  shutdown : Bool
  /-- The tasks that the runtime owns. -/
  owned : List ProcessId
  /-- The background tasks that have not ended. -/
  running : List ProcessId
  /-- Those who wait for tasks to end. -/
  joining : List ProcessId
  channel : Channel

namespace Lifecycle

def new : Lifecycle := ⟨[], false, [], [], [], Channel.empty⟩

def tasks (sweepsSignatures : Bool) : List BackgroundTask :=
  [.refresh, .rollover, .sanctionSweep] ++ if sweepsSignatures then [.signatureSweep] else []

def startable (l : Lifecycle) (sweepsSignatures : Bool) : List BackgroundTask :=
  if l.shutdown then [] else (tasks sweepsSignatures).filter (!l.started.contains ·)

def noteStarted (l : Lifecycle) (task : BackgroundTask) (id : ProcessId) : Lifecycle :=
  { l with started := task :: l.started, running := id :: l.running }

def own (l : Lifecycle) (id : ProcessId) : Lifecycle :=
  { l with owned := l.owned ++ [id], channel := l.channel.subscribe id }

def noteEnded (l : Lifecycle) (id : ProcessId) : Lifecycle :=
  { l with running := l.running.filter (· ≠ id), channel := l.channel.unsubscribe id }

/-- The first shutdown: everyone is told, and the owned tasks are given up. -/
def initiate (l : Lifecycle) : Lifecycle :=
  { l with shutdown := true, owned := [], channel := l.channel.send }

def allEnded (l : Lifecycle) (ids : List ProcessId) : Bool := ids.all (!l.running.contains ·)

end Lifecycle
end RelayGateway
