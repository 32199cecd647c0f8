import RelayGateway.Schedule

/-! # Answers and steps of a schedule

An answer that has arrived stays, and one that has not will arrive later if at all. A step of a schedule is
a turn of one process. It leaves the shared state and the process as the turn does, and every other process
as it was.
-/
namespace RelayGateway

namespace Pending
variable {α : Type} {p : Pending α} {now now' : Nat} {a : α}

theorem ready?_eq_some_iff : p.ready? now = some a ↔ (∃ t, p.due = some t ∧ t ≤ now) ∧ p.answer = a := by
  unfold ready?
  cases p.due with
  | none => simp
  | some t => simp

theorem answer_of_ready? (h : p.ready? now = some a) : p.answer = a := (ready?_eq_some_iff.1 h).2

theorem ready?_mono (h : p.ready? now = some a) (hle : now ≤ now') : p.ready? now' = some a := by
  obtain ⟨⟨t, hdue, ht⟩, hanswer⟩ := ready?_eq_some_iff.1 h
  exact ready?_eq_some_iff.2 ⟨⟨t, hdue, Nat.le_trans ht hle⟩, hanswer⟩

theorem lt_of_ready?_eq_none (h : p.ready? now = none) {t : Nat} (hdue : p.due = some t) : now < t := by
  refine Nat.lt_of_not_le fun hle => ?_
  cases h.symm.trans (ready?_eq_some_iff.2 ⟨⟨t, hdue, hle⟩, rfl⟩)

end Pending

namespace Schedule
variable {σ τ : Type} {s : Schedule σ τ} {id : ProcessId}

theorem lookup_cons_of_ne {k id : ProcessId} (h : id ≠ k) (w : Waiting τ)
    (rest : List (ProcessId × Waiting τ)) : ((k, w) :: rest).lookup id = rest.lookup id := by
  rw [List.lookup_cons, beq_eq_false_iff_ne.2 h]

theorem lookup_filter_ne (id id' : ProcessId) (l : List (ProcessId × Waiting τ)) :
    (l.filter fun e => e.1 ≠ id).lookup id' = if id' = id then none else l.lookup id' := by
  induction l with
  | nil => exact (ite_self none).symm
  | cons e rest ih =>
    obtain ⟨k, w⟩ := e
    by_cases hk : k = id
    · rw [List.filter_cons_of_neg (by simpa using hk), ih, hk]
      split
      · rfl
      · rw [lookup_cons_of_ne (by assumption)]
    · rw [List.filter_cons_of_pos (by simpa using hk)]
      by_cases hid : id' = k
      · subst hid
        rw [if_neg hk, List.lookup_cons_self, List.lookup_cons_self]
      · rw [lookup_cons_of_ne hid, lookup_cons_of_ne hid, ih]

theorem lookup_map_replace (id id' : ProcessId) (w : Waiting τ) (l : List (ProcessId × Waiting τ)) :
    (l.map fun e => if e.1 = id then (id, w) else e).lookup id' =
      if id' = id then (l.lookup id').map fun _ => w else l.lookup id' := by
  induction l with
  | nil => exact (ite_self none).symm
  | cons e rest ih =>
    obtain ⟨k, w'⟩ := e
    have hkey : (if k = id then (id, w) else (k, w')) = (k, if k = id then w else w') := by
      split
      · rw [← ‹k = id›]
      · rfl
    rw [List.map_cons, hkey]
    by_cases hid : id' = k
    · subst hid
      rw [List.lookup_cons_self, List.lookup_cons_self]
      split <;> rfl
    · rw [lookup_cons_of_ne hid, lookup_cons_of_ne hid, ih]

theorem process?_spawn (s : Schedule σ τ) (process : τ) (id : ProcessId) :
    (s.spawn process).1.process? id =
      (s.process? id).or (if id = s.nextId then some process else none) := by
  unfold process? spawn
  dsimp only
  rw [List.lookup_append]
  by_cases hid : id = s.nextId
  · rw [hid, List.lookup_cons_self, if_pos rfl]
    cases s.processes.lookup s.nextId <;> rfl
  · rw [lookup_cons_of_ne hid, if_neg hid]
    cases s.processes.lookup id <;> rfl

theorem process?_remove (s : Schedule σ τ) (id id' : ProcessId) :
    (s.remove id).process? id' = if id' = id then none else s.process? id' := by
  unfold process? remove
  dsimp only
  rw [lookup_filter_ne]
  split <;> rfl

structure Takes (s s' : Schedule σ τ) (id : ProcessId) (turn : Turn σ τ) : Prop where
  shared : s'.shared = turn.shared
  process : ∀ id', s'.process? id' = if id' = id then turn.process else s.process? id'
  nextId : s'.nextId = s.nextId

theorem takes_afterTurn {a : τ} (h : s.process? id = some a) (turn : Turn σ τ) :
    Takes s (s.afterTurn id turn) id turn := by
  unfold afterTurn
  dsimp only
  cases hprocess : turn.process with
  | none =>
    refine ⟨rfl, fun id' => ?_, rfl⟩
    rw [hprocess]
    exact process?_remove s id id'
  | some p =>
    refine ⟨rfl, fun id' => ?_, rfl⟩
    unfold process? wake at *
    dsimp only
    rw [lookup_map_replace, hprocess]
    by_cases hid : id' = id
    · obtain ⟨w, hw, -⟩ := Option.map_eq_some_iff.1 h
      rw [if_pos hid, if_pos hid, hid, hw]
      rfl
    · rw [if_neg hid, if_neg hid]

/-- A step of the schedule is a turn of one process, if it is anything. -/
theorem step_takes (run : Behaviour σ τ) (s : Schedule σ τ) :
    (∃ queue, s.step run = { s with queue }) ∨ ∃ id a, s.process? id = some a ∧
      Takes s (s.step run) id (run s.now id a s.shared) := by
  unfold step
  cases s.queue with
  | nil => exact .inl ⟨s.queue, rfl⟩
  | cons id queue =>
    dsimp only
    cases hw : s.processes.lookup id with
    | none => exact .inl ⟨queue, rfl⟩
    | some w =>
      have hprocess : s.process? id = some w.process := congrArg (Option.map Waiting.process) hw
      have htakes := takes_afterTurn (s := { s with queue }) hprocess
        (run s.now id w.process s.shared)
      exact .inr ⟨id, w.process, hprocess, htakes.shared, htakes.process, htakes.nextId⟩

theorem now_afterTurn (s : Schedule σ τ) (turn : Turn σ τ) : (s.afterTurn id turn).now = s.now := by
  unfold afterTurn
  dsimp only
  split <;> rfl

/-- A turn takes no time. -/
theorem now_step (run : Behaviour σ τ) (s : Schedule σ τ) : (s.step run).now = s.now := by
  unfold step
  cases s.queue with
  | nil => rfl
  | cons id queue =>
    dsimp only
    cases s.processes.lookup id with
    | none => rfl
    | some w => exact now_afterTurn { s with queue } _

/-! ### Distinct processes -/

def Distinct (s : Schedule σ τ) : Prop := (s.processes.map Prod.fst).Nodup

theorem lookup_eq_some_iff_mem {l : List (ProcessId × Waiting τ)} (h : (l.map Prod.fst).Nodup)
    {w : Waiting τ} : l.lookup id = some w ↔ (id, w) ∈ l := by
  induction l with
  | nil => simp
  | cons e rest ih =>
    obtain ⟨k, w'⟩ := e
    have hrest := List.nodup_cons.1 (List.map_cons ▸ h)
    by_cases hk : id = k
    · subst hk
      have hnot : (id, w) ∉ rest := fun hm => hrest.1 (List.mem_map.2 ⟨_, hm, rfl⟩)
      simp [hnot, eq_comm]
    · rw [lookup_cons_of_ne hk, ih hrest.2]
      simp [hk]

theorem Distinct.afterTurn (h : s.Distinct) (turn : Turn σ τ) : (s.afterTurn id turn).Distinct := by
  unfold Schedule.afterTurn
  dsimp only
  split
  · exact h.sublist (List.filter_sublist.map _)
  · next p hp =>
    show ((s.processes.map fun e =>
      if e.1 = id then (id, ⟨p, turn.alarms, s.nextWait⟩) else e).map Prod.fst).Nodup
    rw [List.map_map, List.map_congr_left (g := Prod.fst) fun e _ => ?_]
    · exact h
    · dsimp only [Function.comp]
      split
      · exact Eq.symm ‹_›
      · rfl

theorem Distinct.spawn (h : s.Distinct) (process : τ) (new : s.process? s.nextId = none) :
    (s.spawn process).1.Distinct := by
  have hnot : s.nextId ∉ s.processes.map Prod.fst := by
    intro hmem
    obtain ⟨⟨k, w⟩, he, rfl⟩ := List.mem_map.1 hmem
    have hlookup := (lookup_eq_some_iff_mem h).2 he
    unfold process? at new
    cases (congrArg (Option.map Waiting.process) hlookup).symm.trans new
  unfold Distinct Schedule.spawn
  rw [List.map_append]
  refine List.nodup_append.2 ⟨h, by simp, fun i hi j hj hij => hnot ?_⟩
  have hnext : j = s.nextId := List.mem_singleton.1 hj
  rw [← hnext, ← hij]
  exact hi

theorem isRunning_eq_false (h : s.process? id = none) : s.isRunning id = false := by
  unfold isRunning
  refine List.any_eq_false.2 fun e he hid => ?_
  unfold process? at h
  rw [Option.map_eq_none_iff, List.lookup_eq_none_iff] at h
  exact bne_iff_ne.1 (h e he) (of_decide_eq_true hid).symm

/-! ### Runs -/

/-- The next alarm is yet to come. -/
theorem le_of_nextAlarm? {t : Nat} (h : s.nextAlarm? = some t) : s.now ≤ t := by
  have hlater := (List.mem_filter.1 (List.min?_mem h)).2
  exact Nat.le_of_lt (of_decide_eq_true hlater)

/-- What turns, alarms and the clock keep. -/
structure Keeps (run : Behaviour σ τ) (p : Schedule σ τ → Prop) : Prop where
  step : ∀ s, p s → p (s.step run)
  ring : ∀ s t, s.now ≤ t → p s → p (s.ring t)
  wait : ∀ s t, p s → p { s with now := max s.now t }

namespace Keeps
variable {run : Behaviour σ τ} {p : Schedule σ τ → Prop}

theorem settle (keeps : Keeps run p) (fuel : Nat) (h : p s) : p (s.settle run fuel) := by
  induction fuel generalizing s with
  | zero => exact h
  | succ fuel ih =>
    unfold Schedule.settle
    split
    · exact h
    · exact ih (keeps.step s h)

theorem runUntil (keeps : Keeps run p) (t fuel : Nat) (h : p s) : p (s.runUntil run t fuel) := by
  induction fuel generalizing s with
  | zero => exact h
  | succ fuel ih =>
    unfold Schedule.runUntil
    split
    · cases ha : s.nextAlarm? with
      | none => exact keeps.wait s t h
      | some a =>
        dsimp only
        split
        · exact ih (keeps.ring s a (le_of_nextAlarm? ha) h)
        · exact keeps.wait s t h
    · exact ih (keeps.step s h)

theorem await (keeps : Keeps run p) (ids : List ProcessId) (fuel : Nat) (h : p s) :
    p (s.await run ids fuel) := by
  induction fuel generalizing s with
  | zero => exact h
  | succ fuel ih =>
    unfold Schedule.await
    split
    · split
      · cases ha : s.nextAlarm? with
        | none => exact h
        | some a => exact ih (keeps.ring s a (le_of_nextAlarm? ha) h)
      · exact ih (keeps.step s h)
    · exact h

end Keeps

end Schedule
end RelayGateway
