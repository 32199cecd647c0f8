import RelayGateway.Cache.Refresh
import RelayGateway.Proofs.Cache.Assembly

/-! # The lookups of a round

A round does two things, one at a time: it asks for a session while there is a worker for it, and it
ends a lookup that has been answered or is overdue. An account of these events says which sessions
were asked for, which lookups are in flight, and what has been fetched.
-/
namespace RelayGateway
variable {ω : Type} [Collaborators ω]

theorem CacheConfig.workers_pos (c : CacheConfig) : 0 < c.workers :=
  Nat.lt_of_lt_of_le Nat.zero_lt_one (Nat.le_max_left ..)

inductive RoundEvent where
  | asked (lookup : RunningJob)
  | ended (lookup : RunningJob) (now : Nat)

namespace RoundEvent

def asked? : RoundEvent → Option RunningJob
  | asked lookup => some lookup
  | ended .. => none

def ended? : RoundEvent → Option RunningJob
  | asked _ => none
  | ended lookup _ => some lookup

def fetched? : RoundEvent → Option (SessionJob × Session)
  | asked _ => none
  | ended lookup now =>
    match lookup.outcome now with
    | .fetched session => some (lookup.job, session)
    | _ => none

theorem fetched?_of_fetched {lookup : RunningJob} {now : Nat} {session : Session}
    (h : lookup.outcome now = .fetched session) :
    (ended lookup now).fetched? = some (lookup.job, session) := by
  simp only [fetched?, h]

theorem fetched?_of_failed {lookup : RunningJob} {now : Nat} (h : lookup.outcome now = .failed) :
    (ended lookup now).fetched? = none := by
  simp only [fetched?, h]

/-- What the end of a lookup brings is the answer of the chain. -/
theorem fetched?_eq_some_iff {lookup : RunningJob} {now : Nat} {x : SessionJob × Session} :
    (ended lookup now).fetched? = some x ↔
      lookup.job = x.1 ∧ lookup.answer.ready? now = some (.ok x.2) := by
  rw [← RunningJob.outcome_eq_fetched_iff]
  cases houtcome : lookup.outcome now <;> simp [fetched?, houtcome, Prod.ext_iff]

/-- What an event is outside: a call for a session, or the end of one that is over. -/
def Happens (now timeout : Nat) : RoundEvent → ω → ω → Prop
  | asked lookup, x, y =>
    Collaborators.fetchSession now lookup.job.serviceId lookup.job.appAddress x = (lookup.answer, y) ∧
      lookup.deadline = now + timeout
  | ended lookup time, x, y =>
    time = now ∧ lookup.outcome now ≠ .running ∧ y = Collaborators.sessionClosed x

/-- What is done outside in the course of events at one time is these events and nothing else, so that
collaborators who write down what they are asked for write down these events. -/
inductive Happen (now timeout : Nat) (x : ω) : List RoundEvent → ω → Prop
  | none : Happen now timeout x [] x
  | snoc {events : List RoundEvent} {e : RoundEvent} {y z : ω} (before : Happen now timeout x events y)
      (event : e.Happens now timeout y z) : Happen now timeout x (events ++ [e]) z

abbrev lookups (events : List RoundEvent) : List RunningJob := events.filterMap asked?

abbrev ends (events : List RoundEvent) : List RunningJob := events.filterMap ended?

abbrev sessions (events : List RoundEvent) : List (SessionJob × Session) := events.filterMap fetched?

theorem mem_ends {events : List RoundEvent} {lookup : RunningJob} :
    lookup ∈ ends events ↔ ∃ now, ended lookup now ∈ events := by
  rw [List.mem_filterMap]
  constructor
  · rintro ⟨e, he, hended⟩
    cases e with
    | asked lookup => cases hended
    | ended lookup now =>
      cases hended
      exact ⟨now, he⟩
  · rintro ⟨now, he⟩
    exact ⟨_, he, rfl⟩

theorem mem_sessions {events : List RoundEvent} {x : SessionJob × Session} : x ∈ sessions events ↔
    ∃ lookup now, ended lookup now ∈ events ∧ lookup.job = x.1 ∧
      lookup.answer.ready? now = some (.ok x.2) := by
  rw [List.mem_filterMap]
  constructor
  · rintro ⟨e, he, hfetched⟩
    cases e with
    | asked lookup => cases hfetched
    | ended lookup now => exact ⟨lookup, now, he, fetched?_eq_some_iff.1 hfetched⟩
  · rintro ⟨lookup, now, he, hanswer⟩
    exact ⟨_, he, fetched?_eq_some_iff.2 hanswer⟩

section Concat
variable (events : List RoundEvent) (lookup : RunningJob) (now : Nat)

theorem lookups_asked : lookups (events ++ [asked lookup]) = lookups events ++ [lookup] :=
  List.filterMap_append

theorem lookups_ended : lookups (events ++ [ended lookup now]) = lookups events :=
  List.filterMap_append.trans (List.append_nil _)

theorem ends_asked : ends (events ++ [asked lookup]) = ends events :=
  List.filterMap_append.trans (List.append_nil _)

theorem ends_ended : ends (events ++ [ended lookup now]) = ends events ++ [lookup] :=
  List.filterMap_append

theorem sessions_asked : sessions (events ++ [asked lookup]) = sessions events :=
  List.filterMap_append.trans (List.append_nil _)

theorem sessions_ended : sessions (events ++ [ended lookup now]) =
    sessions events ++ (ended lookup now).fetched?.toList := by
  refine List.filterMap_append.trans (congrArg (sessions events ++ ·) ?_)
  cases h : (ended lookup now).fetched? with
  | none => exact List.filterMap_cons_none h
  | some x => exact List.filterMap_cons_some h

end Concat

end RoundEvent

namespace SessionRound
open RoundEvent
variable {now timeout workers : Nat} {s s' s'' : SessionRound × ω} {events more : List RoundEvent}
variable {jobs : List SessionJob}

/-! ## Steps -/

inductive Step (now timeout workers : Nat) :
    SessionRound × ω → RoundEvent → SessionRound × ω → Prop
  | ask {job : SessionJob} {rest : List SessionJob} {running : List RunningJob}
      {fetched : List (SessionJob × Session)} {lookup : RunningJob} {x y : ω}
      (free : running.length < workers) (same : lookup.job = job)
      (happens : (asked lookup).Happens now timeout x y) :
      Step now timeout workers (⟨job :: rest, running, fetched⟩, x) (asked lookup)
        (⟨rest, running ++ [lookup], fetched⟩, y)
  | finish {waiting : List SessionJob} {before after : List RunningJob} {lookup : RunningJob}
      {fetched : List (SessionJob × Session)} {x y : ω}
      (happens : (ended lookup now).Happens now timeout x y) :
      Step now timeout workers (⟨waiting, before ++ lookup :: after, fetched⟩, x) (ended lookup now)
        (⟨waiting, before ++ after, fetched ++ (ended lookup now).fetched?.toList⟩, y)

inductive Steps (now timeout workers : Nat) (s : SessionRound × ω) :
    List RoundEvent → SessionRound × ω → Prop
  | none : Steps now timeout workers s [] s
  | snoc {events : List RoundEvent} {e : RoundEvent} {s' s'' : SessionRound × ω}
      (before : Steps now timeout workers s events s') (step : Step now timeout workers s' e s'') :
      Steps now timeout workers s (events ++ [e]) s''

theorem Steps.single {e : RoundEvent} (h : Step now timeout workers s e s') :
    Steps now timeout workers s [e] s' :=
  .snoc .none h

theorem Steps.trans (h : Steps now timeout workers s events s')
    (h' : Steps now timeout workers s' more s'') :
    Steps now timeout workers s (events ++ more) s'' := by
  induction h' with
  | none => rwa [List.append_nil]
  | snoc _ step ih =>
    rw [← List.append_assoc]
    exact .snoc ih step

theorem Steps.happen (h : Steps now timeout workers s events s') :
    Happen now timeout s.2 events s'.2 := by
  induction h with
  | none => exact .none
  | snoc _ step ih =>
    cases step with
    | ask free same happens => exact .snoc ih happens
    | finish happens => exact .snoc ih happens

/-! ## A turn of a round -/

/-- A round in the middle of a turn, with the jobs and the running lookups that the turn has yet to
look at. -/
def whole (jobs : List SessionJob) (unseen : List RunningJob) (s : SessionRound × ω) :
    SessionRound × ω :=
  ({ s.1 with waiting := jobs, running := s.1.running ++ unseen }, s.2)

/-- Taking in a running lookup ends it, or leaves the round as it is. -/
theorem settleJob_steps (now timeout workers : Nat) (jobs : List SessionJob)
    (s : SessionRound × ω) (j : RunningJob) (unseen : List RunningJob) :
    ∃ events, Steps now timeout workers (whole jobs (j :: unseen) s) events
      (whole jobs unseen (settleJob now s j)) := by
  unfold settleJob whole
  cases houtcome : j.outcome now with
  | running =>
    refine ⟨[], ?_⟩
    dsimp only
    rw [List.append_assoc]
    exact .none
  | fetched session =>
    have hstep : Step now timeout workers (⟨jobs, s.1.running ++ j :: unseen, s.1.fetched⟩, s.2)
        (ended j now) _ :=
      .finish ⟨rfl, by rw [houtcome]; exact nofun, rfl⟩
    rw [fetched?_of_fetched houtcome] at hstep
    exact ⟨_, .single hstep⟩
  | failed =>
    have hstep : Step now timeout workers (⟨jobs, s.1.running ++ j :: unseen, s.1.fetched⟩, s.2)
        (ended j now) _ :=
      .finish ⟨rfl, by rw [houtcome]; exact nofun, rfl⟩
    rw [fetched?_of_failed houtcome, Option.toList_none, List.append_nil] at hstep
    exact ⟨_, .single hstep⟩

theorem settleJob_waiting (now : Nat) (s : SessionRound × ω) (j : RunningJob) :
    (settleJob now s j).1.waiting = s.1.waiting := by
  unfold settleJob
  cases j.outcome now <;> rfl

def InTime (now : Nat) (r : SessionRound) : Prop := ∀ lookup ∈ r.running, lookup.outcome now = .running

theorem settleJob_inTime {j : RunningJob} (h : InTime now s.1) : InTime now (settleJob now s j).1 := by
  unfold settleJob
  cases houtcome : j.outcome now with
  | running =>
    intro lookup hlookup
    rcases List.mem_append.1 hlookup with hkept | hlast
    · exact h lookup hkept
    · rwa [List.mem_singleton.1 hlast]
  | fetched session => exact h
  | failed => exact h

theorem foldl_settleJob_steps (now timeout workers : Nat) (jobs : List SessionJob)
    (l : List RunningJob) (s : SessionRound × ω) :
    ∃ events, Steps now timeout workers (whole jobs l s) events
      (whole jobs [] (l.foldl (settleJob now) s)) := by
  induction l generalizing s with
  | nil => exact ⟨[], .none⟩
  | cons j rest ih =>
    obtain ⟨events, hfirst⟩ := settleJob_steps now timeout workers jobs s j rest
    obtain ⟨more, hrest⟩ := ih (settleJob now s j)
    exact ⟨events ++ more, hfirst.trans hrest⟩

theorem foldl_settleJob_inTime (l : List RunningJob) (h : InTime now s.1) :
    InTime now (l.foldl (settleJob now) s).1 :=
  List.foldlRecOn (motive := fun s : SessionRound × ω => InTime now s.1) l _ h
    fun _ hs _ _ => settleJob_inTime hs

theorem foldl_settleJob_waiting (now : Nat) (l : List RunningJob) (s : SessionRound × ω) :
    (l.foldl (settleJob now) s).1.waiting = s.1.waiting :=
  List.foldlRecOn (motive := fun t : SessionRound × ω => t.1.waiting = s.1.waiting) l _ rfl
    fun t ht j _ => (settleJob_waiting now t j).trans ht

/-- After a turn a round has no job left or no worker free, and waits only for lookups that are under
way. -/
structure Settled (now workers : Nat) (r : SessionRound) : Prop where
  inTime : InTime now r
  full : r.waiting = [] ∨ workers ≤ r.running.length

/-- What is not finished after a turn waits for a lookup. -/
theorem Settled.busy {r : SessionRound} (h : Settled now workers r) (pos : 0 < workers)
    (unfinished : r.running ≠ [] ∨ r.waiting ≠ []) : r.running ≠ [] := by
  rcases unfinished with hrunning | hwaiting
  · exact hrunning
  · exact List.ne_nil_of_length_pos (Nat.lt_of_lt_of_le pos (h.full.resolve_left hwaiting))

/-- Launching asks for session after session, and ends those that are answered at once. -/
theorem launch_steps (timeout workers : Nat) (jobs : List SessionJob) (s : SessionRound × ω)
    (hw : s.1.waiting = []) (h : InTime now s.1) : ∃ events,
    Steps now timeout workers (whole jobs [] s) events (launch now timeout workers jobs s) ∧
      Settled now workers (launch now timeout workers jobs s).1 := by
  induction jobs generalizing s with
  | nil =>
    refine ⟨[], ?_, h, .inl hw⟩
    unfold launch whole
    rw [List.append_nil, ← hw]
    exact .none
  | cons job rest ih =>
    unfold launch
    by_cases hfree : s.1.running.length < workers
    · rw [if_pos hfree]
      generalize hcall : Collaborators.fetchSession now job.serviceId job.appAddress s.2 = call
      obtain ⟨answer, outside⟩ := call
      dsimp only
      have hask : Step now timeout workers (whole (job :: rest) [] s)
          (asked ⟨job, answer, now + timeout⟩)
          (whole rest [⟨job, answer, now + timeout⟩] (s.1, outside)) := by
        unfold whole
        rw [List.append_nil]
        exact .ask hfree rfl ⟨hcall, rfl⟩
      obtain ⟨events, hsettle⟩ := settleJob_steps now timeout workers rest (s.1, outside)
        ⟨job, answer, now + timeout⟩ []
      obtain ⟨more, hrest, hsettled⟩ :=
        ih (settleJob now (s.1, outside) ⟨job, answer, now + timeout⟩)
          ((settleJob_waiting ..).trans hw) (settleJob_inTime h)
      exact ⟨_, ((Steps.single hask).trans hsettle).trans hrest, hsettled⟩
    · rw [if_neg hfree]
      refine ⟨[], ?_, h, .inr (Nat.le_of_not_lt hfree)⟩
      unfold whole
      rw [List.append_nil]
      exact .none

/-- A turn of a round is a sequence of events. -/
theorem advance_steps (now timeout workers : Nat) (r : SessionRound) (outside : ω) : ∃ events,
    Steps now timeout workers (r, outside) events (r.advance now timeout workers outside) ∧
      Settled now workers (r.advance now timeout workers outside).1 := by
  have hnone : InTime now { r with running := [] } := nofun
  obtain ⟨events, hcollect⟩ := foldl_settleJob_steps now timeout workers r.waiting r.running
    ({ r with running := [] }, outside)
  have hwaiting := foldl_settleJob_waiting now r.running ({ r with running := [] }, outside)
  have hintime := foldl_settleJob_inTime (s := ({ r with running := [] }, outside)) r.running hnone
  unfold advance collect
  generalize r.running.foldl (settleJob now) ({ r with running := [] }, outside) = s at *
  obtain ⟨⟨waiting, running, fetched⟩, x⟩ := s
  dsimp only at hwaiting ⊢
  cases hwaiting
  obtain ⟨more, hlaunch, hsettled⟩ :=
    launch_steps timeout workers r.waiting (⟨[], running, fetched⟩, x) rfl hintime
  exact ⟨events ++ more, hcollect.trans hlaunch, hsettled⟩

/-! ## The account of a round -/

/-- What the events of a round say about where it stands: the jobs were asked for in turn, the lookups
that have not ended are the running ones, and never were there more of them than workers. -/
structure Account (jobs : List SessionJob) (workers : Nat) (events : List RoundEvent)
    (r : SessionRound) : Prop where
  jobs : (lookups events).map RunningJob.job ++ r.waiting = jobs
  flight : (lookups events).Perm (r.running ++ ends events)
  fetched : r.fetched = sessions events
  room : r.running.length ≤ workers
  bounded : ∀ before, before <+: events → ∃ inFlight,
    (lookups before).Perm (inFlight ++ ends before) ∧ inFlight.length ≤ workers

theorem Account.start (jobs : List SessionJob) (workers : Nat) :
    Account jobs workers [] ⟨jobs, [], []⟩ where
  jobs := rfl
  flight := .nil
  fetched := rfl
  room := Nat.zero_le _
  bounded before h := ⟨[], by rw [List.prefix_nil.1 h]; exact .nil, Nat.zero_le _⟩

/-- The bound holds at every moment if it holds at the last one. -/
theorem bounded_snoc {e : RoundEvent} {running : List RunningJob}
    (h : ∀ before, before <+: events → ∃ inFlight : List RunningJob,
      (lookups before).Perm (inFlight ++ ends before) ∧ inFlight.length ≤ workers)
    (flight : (lookups (events ++ [e])).Perm (running ++ ends (events ++ [e])))
    (room : running.length ≤ workers) :
    ∀ before, before <+: events ++ [e] → ∃ inFlight : List RunningJob,
      (lookups before).Perm (inFlight ++ ends before) ∧ inFlight.length ≤ workers := by
  intro before hbefore
  rcases List.prefix_concat_iff.1 hbefore with rfl | hbefore
  · exact ⟨running, flight, room⟩
  · exact h before hbefore

theorem Account.step {e : RoundEvent} (h : Account jobs workers events s.1)
    (step : Step now timeout workers s e s') : Account jobs workers (events ++ [e]) s'.1 := by
  cases step with
  | @ask job rest running fetched lookup x y free same happens =>
    -- The new lookup comes last of those asked for, and joins the running ones.
    have hflight : (lookups (events ++ [asked lookup])).Perm
        ((running ++ [lookup]) ++ ends (events ++ [asked lookup])) := by
      rw [lookups_asked, ends_asked, List.append_assoc]
      refine (h.flight.append_right [lookup]).trans ?_
      rw [List.append_assoc]
      exact List.perm_append_comm.append_left running
    have hroom : (running ++ [lookup]).length ≤ workers := by
      rw [List.length_append]
      exact free
    refine ⟨?_, hflight, ?_, hroom, bounded_snoc h.bounded hflight hroom⟩
    · rw [lookups_asked, List.map_append, List.map_singleton, same, List.append_assoc]
      exact h.jobs
    · rw [sessions_asked]
      exact h.fetched
  | @finish waiting before after lookup fetched x y happens =>
    -- The lookup passes from the running ones, wherever it stands there, to those that have ended.
    have hflight : (lookups (events ++ [ended lookup now])).Perm
        ((before ++ after) ++ ends (events ++ [ended lookup now])) := by
      rw [lookups_ended, ends_ended, ← List.append_assoc]
      calc (lookups events).Perm ((before ++ lookup :: after) ++ ends events) := h.flight
        List.Perm _ (lookup :: (before ++ after) ++ ends events) :=
          List.perm_middle.append_right _
        List.Perm _ ((before ++ after) ++ ends events ++ [lookup]) :=
          (List.perm_append_singleton ..).symm
    have hroom : (before ++ after).length ≤ workers := by
      refine Nat.le_trans ?_ h.room
      exact ((List.sublist_cons_self lookup after).append_left before).length_le
    refine ⟨?_, hflight, ?_, hroom, bounded_snoc h.bounded hflight hroom⟩
    · rw [lookups_ended]
      exact h.jobs
    · rw [sessions_ended]
      exact congrArg (· ++ _) h.fetched

theorem Account.steps (h : Account jobs workers events s.1)
    (steps : Steps now timeout workers s more s') :
    Account jobs workers (events ++ more) s'.1 := by
  induction steps with
  | none => rwa [List.append_nil]
  | snoc _ step ih =>
    rw [← List.append_assoc]
    exact ih.step step

theorem sublist_sessions (events : List RoundEvent) :
    ((sessions events).map Prod.fst).Sublist ((ends events).map RunningJob.job) := by
  induction events with
  | nil => exact .slnil
  | cons e rest ih =>
    cases e with
    | asked lookup => exact ih
    | ended lookup now =>
      cases hfetched : (ended lookup now).fetched? with
      | none =>
        rw [sessions, List.filterMap_cons_none hfetched]
        exact ih.cons lookup.job
      | some x =>
        have hjob : x.1 = lookup.job := (fetched?_eq_some_iff.1 hfetched).1.symm
        rw [sessions, List.filterMap_cons_some hfetched, List.map_cons, hjob]
        exact ih.cons_cons lookup.job

/-- Only sessions of the jobs are fetched. -/
theorem Account.job_of_fetched {r : SessionRound} (h : Account jobs workers events r)
    {x : SessionJob × Session} (hx : x ∈ sessions events) : x.1 ∈ jobs := by
  have hended : x.1 ∈ (ends events).map RunningJob.job :=
    (sublist_sessions events).subset (List.mem_map_of_mem hx)
  have hasked : x.1 ∈ (lookups events).map RunningJob.job := by
    rw [(h.flight.map RunningJob.job).mem_iff, List.map_append]
    exact List.mem_append_right _ hended
  exact h.jobs ▸ List.mem_append_left _ hasked

/-- No session is fetched twice when the jobs are distinct. -/
theorem Account.nodup_sessions {r : SessionRound} (h : Account jobs workers events r)
    (hd : jobs.Nodup) : ((sessions events).map Prod.fst).Nodup := by
  have hlookups : ((lookups events).map RunningJob.job).Nodup :=
    hd.sublist (h.jobs ▸ List.sublist_append_left ..)
  have hflight := (h.flight.map RunningJob.job).nodup_iff.1 hlookups
  rw [List.map_append] at hflight
  exact (List.nodup_append.1 hflight).2.1.sublist (sublist_sessions events)

end SessionRound
end RelayGateway
