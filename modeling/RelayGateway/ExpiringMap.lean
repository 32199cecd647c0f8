import RelayGateway.Table

/-! # Maps whose entries expire

Every entry lives for the same time from its insertion; an entry is expired from the moment its time
is up. Reads never answer with an expired entry, and evict the one that they meet. All times are
milliseconds on one clock.
-/
namespace RelayGateway

structure ExpiringMap (κ ν : Type) where
  ttl : Nat
  entries : Table κ (ν × Nat)

namespace ExpiringMap
variable {κ ν : Type} [DecidableEq κ]

def empty (ttl : Nat) : ExpiringMap κ ν := ⟨ttl, ∅⟩

def live (now : Nat) (e : ν × Nat) : Bool := now < e.2

def insert (m : ExpiringMap κ ν) (now : Nat) (k : κ) (v : ν) : ExpiringMap κ ν :=
  { m with entries := m.entries.insert k (v, now + m.ttl) }

def find? (m : ExpiringMap κ ν) (now : Nat) (k : κ) : Option ν :=
  match m.entries.find? k with
  | some e => if live now e then some e.1 else none
  | none => none

/-- The map after `k` has been read: an expired entry for it is gone. -/
def afterRead (m : ExpiringMap κ ν) (now : Nat) (k : κ) : ExpiringMap κ ν :=
  match m.entries.find? k with
  | some e => if live now e then m else { m with entries := m.entries.erase k }
  | none => m

def sweep (m : ExpiringMap κ ν) (now : Nat) : ExpiringMap κ ν :=
  { m with entries := m.entries.filter fun _ e => live now e }

def expiredCount (m : ExpiringMap κ ν) (now : Nat) : Nat := m.entries.size - (m.sweep now).entries.size

def liveEntries (m : ExpiringMap κ ν) (now : Nat) : List (κ × ν) :=
  (m.sweep now).entries.entries.map fun e => (e.1, e.2.1)

/-- All stored entries count, expired or not. -/
def size (m : ExpiringMap κ ν) : Nat := m.entries.size

def clear (m : ExpiringMap κ ν) : ExpiringMap κ ν := { m with entries := ∅ }

theorem find?_insert_self (m : ExpiringMap κ ν) (now later : Nat) (k : κ) (v : ν) :
    (m.insert now k v).find? later k = if later < now + m.ttl then some v else none := by
  by_cases h : later < now + m.ttl <;> simp [find?, insert, live, h]

theorem find?_insert_of_ne (m : ExpiringMap κ ν) (now later : Nat) {k x : κ} (h : x ≠ k) (v : ν) :
    (m.insert now k v).find? later x = m.find? later x := by
  simp [find?, insert, Table.find?_insert_of_ne _ h]

end ExpiringMap
end RelayGateway
