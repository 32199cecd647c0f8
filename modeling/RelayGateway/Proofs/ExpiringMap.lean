import RelayGateway.ExpiringMap

/-! # Eviction is invisible

Reads and sweeps evict nothing but what has expired, and what has expired stays expired. So they
change no answer that is given at that time or later.
-/
namespace RelayGateway.ExpiringMap
variable {κ ν : Type} [DecidableEq κ] {now later : Nat}

theorem live_of_le {e : ν × Nat} (hle : now ≤ later) (h : live later e = true) : live now e = true := by
  simp only [live, decide_eq_true_eq] at h ⊢
  omega

theorem find?_eq_filter (m : ExpiringMap κ ν) (now : Nat) (k : κ) :
    m.find? now k = ((m.entries.find? k).filter (live now)).map Prod.fst := by
  unfold find?
  cases m.entries.find? k with
  | none => rfl
  | some e =>
    by_cases h : live now e = true <;> simp [Option.filter, h]

/-- What is live later is live now. -/
theorem filter_live (hle : now ≤ later) (stored : Option (ν × Nat)) :
    (stored.filter (live now)).filter (live later) = stored.filter (live later) := by
  cases stored with
  | none => rfl
  | some e =>
    by_cases hlater : live later e = true
    · have hnow := live_of_le hle hlater
      simp [Option.filter, hlater, hnow]
    · by_cases hnow : live now e = true <;> simp [Option.filter, hlater, hnow]

/-- A read changes at most what is stored for its key, and evicts that when it has expired. -/
theorem find?_entries_afterRead (m : ExpiringMap κ ν) (now : Nat) (k x : κ) :
    (m.afterRead now k).entries.find? x =
      if x = k then (m.entries.find? x).filter (live now) else m.entries.find? x := by
  unfold afterRead
  by_cases hx : x = k
  · subst hx
    cases hk : m.entries.find? x with
    | none => simp [hk]
    | some e => by_cases hlive : live now e = true <;> simp [Option.filter, hlive, hk, Table.find?_erase]
  · cases m.entries.find? k with
    | none => simp [hx]
    | some e => by_cases hlive : live now e = true <;> simp [hlive, hx, Table.find?_erase]

theorem find?_entries_sweep (m : ExpiringMap κ ν) (now : Nat) (k : κ) :
    (m.sweep now).entries.find? k = (m.entries.find? k).filter (live now) :=
  Table.find?_filter m.entries _ k

theorem find?_afterRead (m : ExpiringMap κ ν) (hle : now ≤ later) (k x : κ) :
    (m.afterRead now k).find? later x = m.find? later x := by
  rw [find?_eq_filter, find?_eq_filter, find?_entries_afterRead]
  split
  · rw [filter_live hle]
  · rfl

theorem find?_sweep (m : ExpiringMap κ ν) (hle : now ≤ later) (k : κ) :
    (m.sweep now).find? later k = m.find? later k := by
  rw [find?_eq_filter, find?_eq_filter, find?_entries_sweep, filter_live hle]

@[simp]
theorem ttl_afterRead (m : ExpiringMap κ ν) (k : κ) : (m.afterRead now k).ttl = m.ttl := by
  unfold afterRead
  cases m.entries.find? k with
  | none => rfl
  | some e =>
    dsimp only
    split <;> rfl

end RelayGateway.ExpiringMap
