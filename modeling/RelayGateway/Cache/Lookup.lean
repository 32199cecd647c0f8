import RelayGateway.Failure
import RelayGateway.Schedule
import RelayGateway.Table

/-! # Shared lookups

Lookups of one address that run at the same time share a single call: the first leads, the others
follow and are handed the same answer, a failure included. Answers are kept, failures are not.
-/
namespace RelayGateway

structure SharedLookup (α : Type) where
  stored : Table String α
  /-- The followers of each lookup that is under way. -/
  running : Table String (List ProcessId)
  /-- Answers that followers have not fetched yet. -/
  delivered : Table ProcessId (Except ChainError α)

/-- What a lookup waits for: the answer to its own call, or to that of its leader. -/
inductive LookupWait (α : Type) where
  | leading (answer : Pending (Except ChainError α)) (deadline : Nat)
  | following

inductive LookupProgress (α : Type) where
  | waiting (wait : LookupWait α)
  | done (result : Except ChainError α)

/-- The lookups and the collaborators after a step, the processes it has woken, and what the lookup
has come to. -/
structure LookupStep (ω α : Type) where
  lookups : SharedLookup α
  outside : ω
  woken : List ProcessId
  progress : LookupProgress α

namespace LookupWait
variable {α : Type}

def alarms : LookupWait α → List Nat
  | leading answer deadline => answer.due.toList ++ [deadline]
  | following => []

end LookupWait

namespace SharedLookup
variable {ω α : Type}

def empty : SharedLookup α := ⟨∅, ∅, ∅⟩

def conclude (l : SharedLookup α) (address : String) (result : Except ChainError α) :
    SharedLookup α × List ProcessId :=
  let followers := (l.running.find? address).getD []
  let stored :=
    match result with
    | .ok a => l.stored.insert address a
    | .error _ => l.stored
  (⟨stored, l.running.erase address,
    followers.foldl (fun t id => t.insert id result) l.delivered⟩, followers)

def awaitAnswer (l : SharedLookup α) (now : Nat) (address : String) (outside : ω)
    (answer : Pending (Except ChainError α)) (deadline : Nat) : LookupStep ω α :=
  let result :=
    match answer.ready? now with
    | some result => some result
    | none => if deadline ≤ now then some (.error .timeout) else none
  match result with
  | some result =>
    let (l, woken) := l.conclude address result
    ⟨l, outside, woken, .done result⟩
  | none => ⟨l, outside, [], .waiting (.leading answer deadline)⟩

def start (l : SharedLookup α) (now : Nat) (id : ProcessId) (timeout : Nat) (address : String)
    (call : ω → Pending (Except ChainError α) × ω) (outside : ω) : LookupStep ω α :=
  match l.stored.find? address with
  | some a => ⟨l, outside, [], .done (.ok a)⟩
  | none =>
    match l.running.find? address with
    | some followers =>
      ⟨{ l with running := l.running.insert address (followers ++ [id]) }, outside, [],
        .waiting .following⟩
    | none =>
      let (answer, outside) := call outside
      awaitAnswer { l with running := l.running.insert address [] } now address outside answer
        (now + timeout)

def resume (l : SharedLookup α) (now : Nat) (id : ProcessId) (address : String) (outside : ω)
    (wait : LookupWait α) : LookupStep ω α :=
  match wait with
  | .leading answer deadline => l.awaitAnswer now address outside answer deadline
  | .following =>
    match l.delivered.find? id with
    | some result => ⟨{ l with delivered := l.delivered.erase id }, outside, [], .done result⟩
    | none => ⟨l, outside, [], .waiting .following⟩

end SharedLookup
end RelayGateway
