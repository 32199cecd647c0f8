/-! # Periodic ticks

An interval ticks at once and then every period. A tick that is taken more than five milliseconds
late has been missed; the interval then catches up tick by tick, starts anew from the late tick, or
goes on with the next tick of its old rhythm.
-/
namespace RelayGateway

inductive MissedTicks where
  | burst
  | delay
  | skip
deriving DecidableEq, Inhabited

structure Interval where
  next : Nat
  period : Nat
  missed : MissedTicks
deriving DecidableEq, Inhabited

namespace Interval

def start (now period : Nat) (missed : MissedTicks) : Interval := ⟨now, period, missed⟩

def isDue (i : Interval) (now : Nat) : Bool := i.next ≤ now

def tolerance : Nat := 5

def tick (i : Interval) (now : Nat) : Interval :=
  if i.next + tolerance < now then
    match i.missed with
    | .burst => { i with next := i.next + i.period }
    | .delay => { i with next := now + i.period }
    | .skip => { i with next := now + i.period - (now - i.next) % i.period }
  else { i with next := i.next + i.period }

end Interval
end RelayGateway
