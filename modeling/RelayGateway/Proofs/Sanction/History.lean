import RelayGateway.Proofs.ExpiringMap
import RelayGateway.Proofs.Table
import RelayGateway.Sanction.Store

/-! # What the sanction store knows

The store answers as the log of the observations applied since it was last cleared: the latest
permanent recommendation for an address holds, and so does the latest session recommendation for a key
for as long as it is young enough.
-/
namespace RelayGateway.SanctionStore

inductive Event where
  | apply (observations : List EndpointObservation)
  | check (e : Endpoint)
  | filter (candidates : EndpointMap)
  | sweep
  | wait (span : Nat)
  | clear

def Event.span : Event → Nat
  | .wait span => span
  | _ => 0

def react (s : SanctionStore) (now : Nat) : Event → SanctionStore
  | .apply observations => s.applyObservations now observations
  | .check e => s.afterCheck now e
  | .filter candidates => s.afterFilter now candidates
  | .sweep => s.sweep now
  | .wait _ => s
  | .clear => s.clear

def run (s : SanctionStore) (now : Nat) : List Event → SanctionStore × Nat
  | [] => (s, now)
  | event :: rest => run (s.react now event) (now + event.span) rest

/-! ## The log -/

abbrev Log := List (Nat × EndpointObservation)

def note (log : Log) (now : Nat) : Event → Log
  | .apply observations => log ++ observations.map (now, ·)
  | .clear => []
  | _ => log

/-- The observations applied since the last clear, with their times, in order. -/
def chronicle (log : Log) (now : Nat) : List Event → Log
  | [] => log
  | event :: rest => chronicle (note log now event) (now + event.span) rest

def condemns (addr : EndpointAddr) (o : EndpointObservation) : Bool :=
  !o.isFallback && o.recommendedSanction = some .permanent && o.endpointAddr = addr

def suspends (key : SessionSanctionKey) (o : EndpointObservation) : Bool :=
  !o.isFallback && o.recommendedSanction = some .session && o.sanctionKey = key

def latest (p : EndpointObservation → Bool) (log : Log) : Option (Nat × EndpointObservation) :=
  log.reverse.find? fun x => p x.2

/-- Whether an endpoint is sanctioned: for good, or in its session and for less than `ttl` so far. -/
def Dropped (log : Log) (ttl now : Nat) (e : Endpoint) : Prop :=
  (∃ t o, (t, o) ∈ log ∧ condemns e.addr o = true) ∨
    ∃ header, e.header? = some header ∧ ∃ t o, (t, o) ∈ log ∧
      suspends ⟨header.appAddress, header.sessionId, e.addr⟩ o = true ∧ now < t + ttl

variable {s : SanctionStore} {log : Log} {ttl now later : Nat} {o : EndpointObservation}
variable {addr : EndpointAddr} {key : SessionSanctionKey} {e : Endpoint}
variable {p : EndpointObservation → Bool}

theorem latest_snoc (x : Nat × EndpointObservation) :
    latest p (log ++ [x]) = if p x.2 = true then some x else latest p log := by
  unfold latest
  rw [List.reverse_append, List.reverse_singleton, List.singleton_append, List.find?_cons]
  cases p x.2 <;> rfl

theorem latest_eq_none : latest p log = none ↔ ∀ x ∈ log, p x.2 = false := by
  unfold latest
  rw [List.find?_eq_none]
  simp only [List.mem_reverse, Bool.not_eq_true]

theorem latest_mem {x : Nat × EndpointObservation} (h : latest p log = some x) :
    x ∈ log ∧ p x.2 = true := by
  have hp := List.find?_some h
  exact ⟨List.mem_reverse.1 (List.mem_of_find?_eq_some h), hp⟩

/-- The latest observation is no earlier than any other of its kind. -/
theorem le_latest {x y : Nat × EndpointObservation} (hordered : log.Pairwise fun x y => x.1 ≤ y.1)
    (h : latest p log = some x) (hy : y ∈ log) (hp : p y.2 = true) : y.1 ≤ x.1 := by
  obtain ⟨-, before, after, rfl, hafter⟩ := find?_reverse_eq_some_iff.1 h
  rcases List.mem_append.1 hy with hy | hy
  · exact (List.pairwise_append.1 hordered).2.2 y hy x List.mem_cons_self
  · rcases List.mem_cons.1 hy with rfl | hy
    · exact Nat.le_refl _
    · have hnot := hafter y hy
      rw [hp] at hnot
      cases hnot

/-! ## Recording -/

def sanctionOf (x : Nat × EndpointObservation) : Sanction :=
  Sanction.ofObservation x.2 (Timestamp.ofMillis x.1)

theorem permanent_record : (record now s o).permanent.find? addr =
    if condemns addr o = true then some (sanctionOf (now, o)) else s.permanent.find? addr := by
  unfold record condemns sanctionOf
  cases o.isFallback with
  | true => simp
  | false =>
    cases o.recommendedSanction with
    | none => simp
    | some kind =>
      cases kind with
      | permanent => simp [Table.find?_insert, eq_comm]
      | _ => simp

theorem session_record : (record now s o).session.find? later key =
    if suspends key o = true then
      if later < now + s.session.ttl then some (sanctionOf (now, o)) else none
    else s.session.find? later key := by
  unfold record suspends sanctionOf
  cases o.isFallback with
  | true => simp
  | false =>
    cases o.recommendedSanction with
    | none => simp
    | some kind =>
      cases kind with
      | session =>
        by_cases h : o.sanctionKey = key
        · simp [← h, ExpiringMap.find?_insert_self]
        · simp [h, ExpiringMap.find?_insert_of_ne _ _ _ (Ne.symm h)]
      | _ => simp

@[simp]
theorem ttl_record : (record now s o).session.ttl = s.session.ttl := by
  unfold record
  split
  · rfl
  · dsimp only
    split <;> rfl

/-! ## The store answers as the log -/

structure Faithful (log : Log) (ttl now : Nat) (s : SanctionStore) : Prop where
  ttl_eq : s.session.ttl = ttl
  permanent : ∀ addr, s.permanent.find? addr = (latest (condemns addr) log).map sanctionOf
  /-- What the store will answer, now and later, if nothing else is recorded. -/
  session : ∀ key later, now ≤ later → s.session.find? later key =
    ((latest (suspends key) log).filter fun x => decide (later < x.1 + ttl)).map sanctionOf
  past : ∀ x ∈ log, x.1 ≤ now
  ordered : log.Pairwise fun x y => x.1 ≤ y.1

theorem faithful_new (config : SanctionConfig) (now : Nat) :
    Faithful [] config.sessionTtl now (new config) where
  ttl_eq := rfl
  permanent _ := rfl
  session _ _ _ := rfl
  past := by simp
  ordered := .nil

theorem Faithful.record (h : Faithful log ttl now s) (o : EndpointObservation) :
    Faithful (log ++ [(now, o)]) ttl now (record now s o) where
  ttl_eq := ttl_record.trans h.ttl_eq
  permanent := by
    intro addr
    rw [permanent_record, latest_snoc]
    split
    · rfl
    · exact h.permanent addr
  session := by
    intro key later hle
    rw [session_record, latest_snoc, h.ttl_eq]
    split
    · by_cases hlive : later < now + ttl <;> simp [Option.filter, hlive]
    · exact h.session key later hle
  past := by
    intro x hx
    rcases List.mem_append.1 hx with hx | hx
    · exact h.past x hx
    · cases List.mem_singleton.1 hx
      exact Nat.le_refl now
  ordered := by
    rw [List.pairwise_append]
    refine ⟨h.ordered, List.pairwise_singleton _ _, ?_⟩
    intro x hx y hy
    rw [List.mem_singleton.1 hy]
    exact h.past x hx

theorem Faithful.apply (h : Faithful log ttl now s) (observations : List EndpointObservation) :
    Faithful (log ++ observations.map (now, ·)) ttl now (s.applyObservations now observations) := by
  unfold applyObservations
  induction observations generalizing log s with
  | nil => simpa using h
  | cons o rest ih =>
    have hrest := ih (h.record o)
    simpa using hrest

/-- Nothing is known but what the store answers. -/
theorem Faithful.of_answers {s' : SanctionStore} (h : Faithful log ttl now s)
    (hpermanent : s'.permanent = s.permanent) (httl : s'.session.ttl = s.session.ttl)
    (hsession : ∀ key later, now ≤ later → s'.session.find? later key = s.session.find? later key) :
    Faithful log ttl now s' where
  ttl_eq := httl.trans h.ttl_eq
  permanent := by
    rw [hpermanent]
    exact h.permanent
  session := by
    intro key later hle
    rw [hsession key later hle]
    exact h.session key later hle
  past := h.past
  ordered := h.ordered

theorem Faithful.check (h : Faithful log ttl now s) (e : Endpoint) :
    Faithful log ttl now (afterCheck now s e) := by
  unfold afterCheck
  split
  · exact h.of_answers rfl (ExpiringMap.ttl_afterRead _ _) fun key later hle =>
      ExpiringMap.find?_afterRead _ hle _ key
  · exact h

theorem Faithful.filter (h : Faithful log ttl now s) (candidates : EndpointMap) :
    Faithful log ttl now (s.afterFilter now candidates) := by
  unfold afterFilter
  generalize candidates.values = endpoints
  induction endpoints generalizing s with
  | nil => exact h
  | cons e rest ih => exact ih (h.check e)

theorem Faithful.wait (h : Faithful log ttl now s) (hle : now ≤ later) :
    Faithful log ttl later s where
  ttl_eq := h.ttl_eq
  permanent := h.permanent
  session key later' hle' := h.session key later' (Nat.le_trans hle hle')
  past x hx := Nat.le_trans (h.past x hx) hle
  ordered := h.ordered

theorem Faithful.clear (h : Faithful log ttl now s) : Faithful [] ttl now s.clear where
  ttl_eq := h.ttl_eq
  permanent _ := rfl
  session _ _ _ := rfl
  past := by simp
  ordered := .nil

theorem Faithful.react (h : Faithful log ttl now s) (event : Event) :
    Faithful (note log now event) ttl (now + event.span) (s.react now event) := by
  cases event with
  | apply observations => exact h.apply observations
  | check e => exact h.check e
  | filter candidates => exact h.filter candidates
  | sweep => exact h.of_answers rfl rfl fun key later hle => ExpiringMap.find?_sweep _ hle key
  | wait span => exact h.wait (Nat.le_add_right now span)
  | clear => exact h.clear

theorem Faithful.run (h : Faithful log ttl now s) (events : List Event) :
    Faithful (chronicle log now events) ttl (run s now events).2 (run s now events).1 := by
  induction events generalizing log now s with
  | nil => exact h
  | cons event rest ih => exact ih (h.react event)

/-! ## What the log says about an endpoint -/

def verdict (log : Log) (ttl now : Nat) (e : Endpoint) : Option String :=
  match latest (condemns e.addr) log with
  | some x => some ("permanent sanction: " ++ x.2.errorDetails.getD "")
  | none =>
    match e.header? with
    | some header =>
      ((latest (suspends ⟨header.appAddress, header.sessionId, e.addr⟩) log).filter
        fun x => decide (now < x.1 + ttl)).map
          fun x => "session sanction: " ++ x.2.errorDetails.getD ""
    | none => none

theorem Faithful.reason?_eq (h : Faithful log ttl now s) (e : Endpoint) :
    s.reason? now e = verdict log ttl now e := by
  unfold reason? verdict Endpoint.sanctionKey?
  rw [h.permanent]
  cases latest (condemns e.addr) log with
  | some x => rfl
  | none =>
    cases e.header? with
    | none => rfl
    | some header =>
      simp only [Option.map_none, Option.map_some]
      rw [h.session _ _ (Nat.le_refl now), Option.map_map]
      rfl

theorem isSome_verdict (hordered : log.Pairwise fun x y => x.1 ≤ y.1) :
    (verdict log ttl now e).isSome = true ↔ Dropped log ttl now e := by
  unfold verdict Dropped
  cases hc : latest (condemns e.addr) log with
  | some x =>
    obtain ⟨hm, hp⟩ := latest_mem hc
    exact ⟨fun _ => .inl ⟨x.1, x.2, hm, hp⟩, fun _ => rfl⟩
  | none =>
    have hnone : ¬ ∃ t o, (t, o) ∈ log ∧ condemns e.addr o = true := by
      rintro ⟨t, o, hm, hp⟩
      rw [latest_eq_none.1 hc _ hm] at hp
      cases hp
    rw [or_iff_right hnone]
    cases hh : e.header? with
    | none => simp
    | some header =>
      simp only [Option.some.injEq, exists_eq_left', Option.isSome_map]
      cases hs : latest (suspends ⟨header.appAddress, header.sessionId, e.addr⟩) log with
      | none =>
        simp only [Option.filter_none, Option.isSome_none, Bool.false_eq_true, false_iff]
        rintro ⟨t, o, hm, hp, -⟩
        rw [latest_eq_none.1 hs _ hm] at hp
        cases hp
      | some x =>
        obtain ⟨hm, hp⟩ := latest_mem hs
        constructor
        · intro h
          refine ⟨x.1, x.2, hm, hp, ?_⟩
          by_cases hlive : now < x.1 + ttl
          · exact hlive
          · simp [Option.filter, hlive] at h
        · rintro ⟨t, o, hm', hp', hlive⟩
          have hle := le_latest hordered hs hm' hp'
          have hlive' : now < x.1 + ttl := by
            dsimp only at hle
            omega
          simp [Option.filter, hlive']

/-! ## What leaves no trace -/

def recommends (o : EndpointObservation) : Bool :=
  o.recommendedSanction = some .permanent || o.recommendedSanction = some .session

/-- What is left of an event when all that is without consequence is taken out. -/
def Event.essence : Event → List Event
  | .apply observations => (observations.filter recommends).map fun o => .apply [o]
  | .check _ => []
  | .filter _ => []
  | .sweep => []
  | .wait span => [.wait span]
  | .clear => [.clear]

theorem latest_filter (h : ∀ o, p o = true → recommends o = true) (log : Log) :
    latest p (log.filter fun x => recommends x.2) = latest p log := by
  unfold latest
  rw [← List.filter_reverse, List.find?_filter]
  congr 1
  funext x
  cases hp : p x.2 with
  | false => simp
  | true => simp [h x.2 hp]

theorem verdict_filter (log : Log) (ttl now : Nat) (e : Endpoint) :
    verdict (log.filter fun x => recommends x.2) ttl now e = verdict log ttl now e := by
  have hcondemns : ∀ addr o, condemns addr o = true → recommends o = true := by
    intro addr o h
    simp only [condemns, Bool.and_eq_true, decide_eq_true_eq] at h
    simp [recommends, h.1.2]
  have hsuspends : ∀ key o, suspends key o = true → recommends o = true := by
    intro key o h
    simp only [suspends, Bool.and_eq_true, decide_eq_true_eq] at h
    simp [recommends, h.1.2]
  unfold verdict
  simp only [latest_filter (hcondemns _), latest_filter (hsuspends _)]

theorem chronicle_apply (log : Log) (now : Nat) (observations : List EndpointObservation)
    (rest : List Event) :
    chronicle log now ((observations.map fun o => .apply [o]) ++ rest) =
      chronicle (log ++ observations.map (now, ·)) now rest := by
  induction observations generalizing log with
  | nil => simp
  | cons o observations ih =>
    simp only [List.map_cons, List.cons_append, chronicle, note, Event.span, Nat.add_zero]
    rw [ih]
    simp

theorem chronicle_essence (log : Log) (now : Nat) (events : List Event) :
    chronicle (log.filter fun x => recommends x.2) now (events.flatMap Event.essence) =
      (chronicle log now events).filter fun x => recommends x.2 := by
  induction events generalizing log now with
  | nil => rfl
  | cons event rest ih =>
    rw [List.flatMap_cons]
    cases event with
    | apply observations =>
      rw [Event.essence, chronicle_apply, chronicle, ← ih, note, List.filter_append,
        List.filter_map]
      rfl
    | check e => exact ih log now
    | filter candidates => exact ih log now
    | sweep => exact ih log now
    | wait span => exact ih log (now + span)
    | clear => exact ih [] now

def clock (now : Nat) (events : List Event) : Nat :=
  events.foldl (fun now event => now + event.span) now

theorem run_clock (s : SanctionStore) (now : Nat) (events : List Event) :
    (run s now events).2 = clock now events := by
  induction events generalizing s now with
  | nil => rfl
  | cons event rest ih =>
    rw [run, ih]
    rfl

theorem clock_single (now : Nat) (event : Event) : clock now event.essence = now + event.span := by
  cases event with
  | apply observations =>
    simp only [Event.essence, clock]
    generalize observations.filter recommends = recommending
    induction recommending with
    | nil => rfl
    | cons o rest ih => exact ih
  | _ => rfl

theorem clock_essence (now : Nat) (events : List Event) :
    clock now (events.flatMap Event.essence) = clock now events := by
  induction events generalizing now with
  | nil => rfl
  | cons event rest ih =>
    calc clock now ((event :: rest).flatMap Event.essence)
        = clock (clock now event.essence) (rest.flatMap Event.essence) := by
          rw [List.flatMap_cons, clock, List.foldl_append]
          rfl
      _ = clock now (event :: rest) := by
          rw [ih, clock_single]
          rfl

/-! ## Every run -/

/-- After any run an endpoint is dropped if and only if the log says so. Permanent sanctions are named
first, and every sanction is named after the latest observation. What recommends no sanction, and reads
and sweeps, make no difference to any answer. -/
theorem run_answers (config : SanctionConfig) (start : Nat) (events : List Event) :
    let s := (run (new config) start events).1
    let now := (run (new config) start events).2
    let log := chronicle [] start events
    (∀ candidates addr e, (addr, e) ∈ (s.allowed now candidates).entries ↔
      (addr, e) ∈ candidates.entries ∧ ¬ Dropped log config.sessionTtl now e) ∧
    (∀ e, (s.reason? now e).isSome = true ↔ Dropped log config.sessionTtl now e) ∧
    (∀ e x, latest (condemns e.addr) log = some x →
      s.reason? now e = some ("permanent sanction: " ++ x.2.errorDetails.getD "")) ∧
    (∀ e header x, latest (condemns e.addr) log = none → e.header? = some header →
      latest (suspends ⟨header.appAddress, header.sessionId, e.addr⟩) log = some x →
      now < x.1 + config.sessionTtl →
      s.reason? now e = some ("session sanction: " ++ x.2.errorDetails.getD "")) ∧
    ∀ events', events'.flatMap Event.essence = events.flatMap Event.essence →
      (run (new config) start events').2 = now ∧
      (∀ e, (run (new config) start events').1.reason? now e = s.reason? now e) ∧
      ∀ candidates, (run (new config) start events').1.allowed now candidates =
        s.allowed now candidates := by
  intro s now log
  have h : Faithful log config.sessionTtl now s := (faithful_new config start).run events
  have hdropped : ∀ e, (s.reason? now e).isSome = true ↔ Dropped log config.sessionTtl now e := by
    intro e
    rw [h.reason?_eq]
    exact isSome_verdict h.ordered
  refine ⟨?_, hdropped, ?_, ?_, ?_⟩
  · intro candidates addr e
    rw [← hdropped, allowed, Table.filter, List.mem_filter]
    cases s.reason? now e <;> simp
  · intro e x hx
    rw [h.reason?_eq, verdict, hx]
  · intro e header x hnone hheader hx hlive
    rw [h.reason?_eq, verdict, hnone, hheader]
    simp [hx, Option.filter, hlive]
  · intro events' hevents
    have hnow : (run (new config) start events').2 = now := by
      show _ = (run (new config) start events).2
      rw [run_clock, run_clock, ← clock_essence, hevents, clock_essence]
    have hreason : ∀ e, (run (new config) start events').1.reason? now e = s.reason? now e := by
      intro e
      have h' := (faithful_new config start).run events'
      rw [hnow] at h'
      rw [h.reason?_eq, h'.reason?_eq, ← verdict_filter, ← verdict_filter log, ← chronicle_essence,
        hevents, chronicle_essence]
    refine ⟨hnow, hreason, ?_⟩
    intro candidates
    unfold allowed
    simp only [hreason]

end RelayGateway.SanctionStore
