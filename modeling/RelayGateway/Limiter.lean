/-! # The concurrency limiter

A gate that lets at most `capacity` relays through at a time. Permits are handed out in the order of
the requests: a permit that comes back goes straight to the first in the queue, which takes it up
when it next runs. A request that is given up returns the permit it was handed.
-/
namespace RelayGateway

abbrev HolderId := Nat

structure Limiter where
  capacity : Nat
  available : Nat
  /-- Requests that wait, the oldest first. -/
  queue : List HolderId
  /-- Requests that were handed a permit and have not taken it up yet. -/
  granted : List HolderId
  /-- The permits in use. -/
  holders : List HolderId

namespace Limiter

def defaultCapacity : Nat := 1000

/-- At least one permit, so that the gate can never shut everyone out. -/
def new (capacity : Nat) : Limiter :=
  let capacity := max 1 capacity
  ⟨capacity, capacity, [], [], []⟩

def active (l : Limiter) : Nat := l.holders.length

/-- Asks for a permit: taken at once if one is available, else the request joins the queue. -/
def request (l : Limiter) (id : HolderId) : Limiter :=
  if 0 < l.available then { l with available := l.available - 1, holders := id :: l.holders }
  else { l with queue := l.queue ++ [id] }

def holds (l : Limiter) (id : HolderId) : Bool := l.holders.contains id

/-- Takes up a permit that was handed to the request. -/
def take (l : Limiter) (id : HolderId) : Limiter :=
  if l.granted.contains id then
    { l with granted := l.granted.erase id, holders := id :: l.holders }
  else l

/-- A permit comes back: to the first in the queue, which is woken, or to the free ones. -/
def giveBack (l : Limiter) : Limiter × List HolderId :=
  match l.queue with
  | [] => ({ l with available := l.available + 1 }, [])
  | next :: queue => ({ l with queue, granted := l.granted ++ [next] }, [next])

def release (l : Limiter) (id : HolderId) : Limiter × List HolderId :=
  if l.holders.contains id then giveBack { l with holders := l.holders.erase id } else (l, [])

def withdraw (l : Limiter) (id : HolderId) : Limiter × List HolderId :=
  if l.granted.contains id then giveBack { l with granted := l.granted.erase id }
  else ({ l with queue := l.queue.filter (· ≠ id) }, [])

end Limiter
end RelayGateway
