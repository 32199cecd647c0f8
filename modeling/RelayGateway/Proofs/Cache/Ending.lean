import RelayGateway.Proofs.Cache.Course

/-! # A refresh ends

A turn that comes when every lookup in flight is overdue ends them all, and asks for sessions that were
not asked for before. So a refresh whose turns leave each other the time of a lookup has no more turns
than there are sessions to look up, and two.
-/
namespace RelayGateway
variable {ω : Type} [Collaborators ω]

theorem RunningJob.outcome_of_overdue {j : RunningJob} {now : Nat} (h : j.deadline ≤ now) :
    j.outcome now ≠ .running := by
  unfold outcome
  split
  · exact nofun
  · exact nofun
  · rw [if_pos h]
    exact nofun

namespace SessionRound
variable {now timeout workers : Nat} {s : SessionRound × ω} {r : SessionRound}

def remaining (r : SessionRound) : Nat := r.running.length + r.waiting.length

def DueBy (time : Nat) (r : SessionRound) : Prop := ∀ lookup ∈ r.running, lookup.deadline ≤ time

/-- Lookups that are over do not stay among the running ones. -/
theorem foldl_settleJob_over (l : List RunningJob) (s : SessionRound × ω)
    (h : ∀ j ∈ l, j.outcome now ≠ .running) :
    (l.foldl (settleJob now) s).1.running = s.1.running := by
  induction l generalizing s with
  | nil => rfl
  | cons j rest ih =>
    rw [List.foldl_cons, ih _ fun x hx => h x (List.mem_cons_of_mem _ hx)]
    unfold settleJob
    cases houtcome : j.outcome now with
    | running => exact absurd houtcome (h j List.mem_cons_self)
    | fetched session => rfl
    | failed => rfl

theorem settleJob_running (now : Nat) (s : SessionRound × ω) (j : RunningJob) :
    (settleJob now s j).1.running.Sublist (s.1.running ++ [j]) := by
  unfold settleJob
  cases j.outcome now with
  | running => exact List.Sublist.refl _
  | fetched session => exact List.sublist_append_left ..
  | failed => exact List.sublist_append_left ..

/-- Launching takes jobs from the list, and what it starts is due a timeout later. -/
theorem launch_remaining (workers : Nat) (jobs : List SessionJob) (s : SessionRound × ω)
    (hw : s.1.waiting = []) (h : DueBy (now + timeout) s.1) :
    DueBy (now + timeout) (launch now timeout workers jobs s).1 ∧
      (launch now timeout workers jobs s).1.remaining ≤ s.1.running.length + jobs.length := by
  induction jobs generalizing s with
  | nil =>
    unfold launch remaining
    rw [hw]
    exact ⟨h, Nat.le_refl _⟩
  | cons job rest ih =>
    unfold launch
    split
    · generalize Collaborators.fetchSession now job.serviceId job.appAddress s.2 = call
      obtain ⟨answer, outside⟩ := call
      dsimp only
      have hsub := settleJob_running now (s.1, outside) ⟨job, answer, now + timeout⟩
      have hwaiting := (settleJob_waiting now (s.1, outside) ⟨job, answer, now + timeout⟩).trans hw
      generalize settleJob now (s.1, outside) ⟨job, answer, now + timeout⟩ = s' at hsub hwaiting ⊢
      have hdue : DueBy (now + timeout) s'.1 := by
        intro lookup hlookup
        rcases List.mem_append.1 (hsub.subset hlookup) with hrunning | hlast
        · exact h lookup hrunning
        · exact Nat.le_of_eq (congrArg RunningJob.deadline (List.mem_singleton.1 hlast))
      obtain ⟨hdue', hremaining⟩ := ih s' hwaiting hdue
      have hlength := hsub.length_le
      rw [List.length_append, List.length_singleton] at hlength
      dsimp only at hlength
      rw [List.length_cons]
      exact ⟨hdue', by omega⟩
    · exact ⟨h, Nat.le_refl _⟩

/-- A turn after the deadlines leaves at most the jobs that were waiting. -/
theorem advance_remaining (timeout workers : Nat) (r : SessionRound) (outside : ω)
    (h : DueBy now r) : DueBy (now + timeout) (r.advance now timeout workers outside).1 ∧
      (r.advance now timeout workers outside).1.remaining ≤ r.waiting.length := by
  have hover := foldl_settleJob_over r.running ({ r with running := [] }, outside)
    fun j hj => RunningJob.outcome_of_overdue (h j hj)
  have hwaiting := foldl_settleJob_waiting now r.running ({ r with running := [] }, outside)
  unfold advance collect
  generalize r.running.foldl (settleJob now) ({ r with running := [] }, outside) = s at *
  obtain ⟨⟨waiting, running, fetched⟩, x⟩ := s
  dsimp only at hover hwaiting ⊢
  cases hover
  cases hwaiting
  have hnone : DueBy (now + timeout) ⟨[], [], fetched⟩ := fun _ => nofun
  have hlaunch := launch_remaining workers r.waiting (⟨[], [], fetched⟩, x) rfl hnone
  exact ⟨hlaunch.1, Nat.le_trans hlaunch.2 (Nat.le_of_eq (Nat.zero_add _))⟩

end SessionRound
namespace Refresh
variable {config : CacheConfig} {turns : List (ChainTurn ω)} {progress : RefreshProgress}
variable {now : Nat} {v : ChainView ω} {apps : List Application} {r r' : SessionRound}
variable {stage : RefreshStage}

/-- A gathering that waits: at least one lookup is under way, all are due a timeout from now, and so
many jobs are left at most. -/
structure Paced (now timeout bound : Nat) (r : SessionRound) : Prop where
  busy : r.running ≠ []
  due : r.DueBy (now + timeout)
  left : r.remaining ≤ bound

theorem gather_waiting (hdue : r.DueBy now) (h : (gather now apps v r).2 = .waiting stage) :
    ∃ r', stage = .gathering apps r' ∧ Paced now v.cache.config.fetchTimeout r.waiting.length r' := by
  obtain ⟨-, -, hsettled⟩ := SessionRound.advance_steps now v.cache.config.fetchTimeout
    v.cache.config.workers r v.outside
  obtain ⟨hdue', hleft⟩ := SessionRound.advance_remaining v.cache.config.fetchTimeout
    v.cache.config.workers r v.outside hdue
  unfold gather at h
  dsimp only at h
  generalize r.advance now v.cache.config.fetchTimeout v.cache.config.workers v.outside = s at *
  unfold afterGathering at h
  split at h
  · rename_i hunfinished
    cases h
    have hunfinished' : s.1.running ≠ [] ∨ s.1.waiting ≠ [] := by simpa using hunfinished
    exact ⟨s.1, rfl, hsettled.busy (CacheConfig.workers_pos _) hunfinished', hdue', hleft⟩
  · split at h <;> cases h

theorem afterListing_waiting {result : Except ChainError (List Application)}
    (h : (afterListing now v result).2 = .waiting stage) : ∃ apps r', stage = .gathering apps r' ∧
      Paced now v.cache.config.fetchTimeout (SessionJob.ofApps apps).length r' := by
  cases result with
  | error e => cases h
  | ok apps =>
    unfold afterListing at h
    dsimp only at h
    split at h
    · cases h
    · have hnone : SessionRound.DueBy now ⟨SessionJob.ofApps apps, [], []⟩ := fun _ => nofun
      obtain ⟨r', hstage, hpaced⟩ := gather_waiting hnone h
      exact ⟨apps, r', hstage, hpaced⟩

theorem awaitListing_waiting {answer : Pending (Except ChainError (List Application))} {deadline : Nat}
    (h : (awaitListing now v answer deadline).2 = .waiting stage) :
    (stage = .listing answer deadline ∧ now < deadline) ∨ ∃ apps r', stage = .gathering apps r' ∧
      Paced now v.cache.config.fetchTimeout (SessionJob.ofApps apps).length r' := by
  unfold awaitListing at h
  split at h
  · exact .inr (afterListing_waiting h)
  · split at h
    · cases h
    · rename_i hdue
      cases h
      exact .inl ⟨rfl, Nat.lt_of_not_le hdue⟩

/-- Each turn comes after those before it by the time that a lookup may take. -/
def Patient (timeout : Nat) (turns : List (ChainTurn ω)) : Prop :=
  turns.Pairwise fun turn later => turn.now + timeout ≤ later.now

inductive Progresses (config : CacheConfig) (turns : List (ChainTurn ω)) : RefreshStage → Prop
  | listing {turn : ChainTurn ω} {answer : Pending (Except ChainError (List Application))}
      (only : turns = [turn]) :
      Progresses config turns (.listing answer (turn.now + config.fetchTimeout))
  | gathering {apps : List Application} {r : SessionRound} {bound : Nat} {turn : ChainTurn ω}
      (last : turns.getLast? = some turn) (paced : Paced turn.now config.fetchTimeout bound r)
      (bounded : turns.length + bound ≤ (SessionJob.ofApps apps).length + 2) :
      Progresses config turns (.gathering apps r)

theorem Course.progresses (h : Course config turns progress)
    (patient : Patient config.fetchTimeout turns) (hwaiting : progress = .waiting stage) :
    Progresses config turns stage := by
  induction h generalizing stage with
  | @start now v same =>
    unfold Refresh.start at hwaiting
    rcases awaitListing_waiting hwaiting with ⟨rfl, -⟩ | ⟨apps, r', rfl, hpaced⟩
    · rw [same]
      exact .listing rfl
    · rw [same] at hpaced
      exact .gathering rfl hpaced (by rw [List.length_singleton]; omega)
  | @resume turns stage' now v course same ih =>
    obtain ⟨hpatient, -, hlater⟩ := List.pairwise_append.1 patient
    have hprogresses := ih hpatient rfl
    unfold Refresh.resume at hwaiting
    cases hprogresses with
    | @listing turn answer only =>
      have hdue := hlater turn (only ▸ List.mem_cons_self) _ List.mem_cons_self
      -- The second turn finds the call for the applications answered or overdue.
      rcases awaitListing_waiting hwaiting with ⟨-, hearly⟩ | ⟨apps, r', rfl, hpaced⟩
      · exact absurd hdue (Nat.not_le.2 hearly)
      · rw [same] at hpaced
        refine .gathering List.getLast?_concat hpaced ?_
        rw [only, List.length_append, List.length_singleton, List.length_singleton]
        omega
    | @gathering apps r bound turn last paced bounded =>
      -- All lookups in flight are overdue by now: with them at least one job is done.
      have hdue := hlater turn (List.mem_of_getLast? last) _ List.mem_cons_self
      obtain ⟨r', rfl, hpaced⟩ := gather_waiting
        (fun lookup hlookup => Nat.le_trans (paced.due lookup hlookup) hdue) hwaiting
      rw [same] at hpaced
      refine .gathering List.getLast?_concat hpaced ?_
      have hbusy := List.length_pos_iff.2 paced.busy
      have hleft := paced.left
      unfold SessionRound.remaining at hleft
      rw [List.length_append, List.length_singleton]
      omega

/-- A patient refresh has ended after as many turns as there are sessions to look up, and two. -/
theorem Course.ends (h : Course config turns progress) (patient : Patient config.fetchTimeout turns)
    (hlisted : Listed (.ok apps) turns) (hturns : (SessionJob.ofApps apps).length + 2 ≤ turns.length) :
    ∃ result, progress = .done result := by
  cases progress with
  | done result => exact ⟨result, rfl⟩
  | waiting stage =>
    exfalso
    cases h.progresses patient rfl with
    | listing only =>
      rw [only, List.length_singleton] at hturns
      omega
    | @gathering apps' r bound turn last paced bounded =>
      cases h.stands with
      | gathering gathers =>
        cases gathers.listed.unique hlisted
        have hbusy := List.length_pos_iff.2 paced.busy
        have hleft := paced.left
        unfold SessionRound.remaining at hleft
        omega

end Refresh
end RelayGateway
