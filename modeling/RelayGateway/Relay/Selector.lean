import RelayGateway.Endpoint
import RelayGateway.Text.Occurs

/-! # Choosing an endpoint

Round robin rotates through the candidates: every choice from a list that is not empty uses up one
turn, and the turn decides the position.
-/
namespace RelayGateway

structure RoundRobin where
  turn : Nat
deriving DecidableEq, Inhabited

namespace RoundRobin

def new : RoundRobin := ⟨0⟩

def select (r : RoundRobin) (candidates : List EndpointAddr) :
    RoundRobin × Except String EndpointAddr :=
  match candidates[r.turn % candidates.length]? with
  | some chosen => (⟨(r.turn + 1) % wordBound⟩, .ok chosen)
  | none => (r, .error "no candidates")

end RoundRobin

/-- A way to choose: the rotation, a fixed position, a part of the address, an address whatever the
candidates, or a refusal. -/
inductive Selector where
  | roundRobin
  | first
  | last
  | containing (part : String)
  | always (addr : EndpointAddr)
  | refuse (reason : String)

namespace Selector

def orNone (found : Option EndpointAddr) (reason : String) : Except String EndpointAddr :=
  match found with
  | some addr => .ok addr
  | none => .error reason

def choose (rotation : List EndpointAddr → Except String EndpointAddr) (s : Selector)
    (candidates : List EndpointAddr) : Except String EndpointAddr :=
  match s with
  | roundRobin => rotation candidates
  | first => orNone candidates.head? "no candidates"
  | last => orNone candidates.getLast? "no candidates"
  | containing part =>
    orNone (candidates.find? fun a => Text.occurs part.toList a.text.toList) (part ++ " not offered")
  | always addr => .ok addr
  | refuse reason => .error reason

end Selector

end RelayGateway
