import Mathlib.Data.Prod.Lex
import Mathlib.Data.Set.Card
import Mathlib.Order.CompletePartialOrder
import Mathlib.Order.OrderIsoNat
import RelayGateway.Proofs.Relay.Deadline
import RelayGateway.Proofs.Schedule
import RelayGateway.Proofs.Table
import RelayGateway.Script

/-! # Dispatches return in time

A turn of a participant that can run brings it further on, or it has been woken for nothing and then waits
again, waking nobody. So after finitely many turns nobody can run, and the clock moves, but never past the
deadline of a dispatch that still runs. A dispatch therefore returns, no later than its deadline.
-/
namespace RelayGateway
variable {ω : Type}

/-! ## Turns bring their attempt further on -/

def AttemptStage.rank : AttemptStage → Nat
  | sharing => 7
  | signing _ => 5
  | queueing _ => 3
  | posting _ => 2
  | validating _ => 1

def Phase.rank : Phase → Nat
  | fresh => 8
  | looked .wait => 7
  | looked .compute => 6
  | looked (.done _) => 4
  | .at stage => stage.rank
  | ended _ => 0

namespace AttemptStage

theorem rank_pos (stage : AttemptStage) : 0 < stage.rank := by
  cases stage <;> simp [rank]

end AttemptStage

theorem Phase.rank_looked_le (progress : SignatureCache.Progress) :
    (looked progress).rank ≤ 7 := by
  cases progress <;> simp [rank]

/-- From `r` to `r'` the rank goes down, or nobody has been woken. -/
def Advances (r r' : Relays ω) (rank rank' : Nat) : Prop :=
  rank' < rank ∨ rank' = rank ∧ r'.woken = r.woken

theorem Advances.rfl {r : Relays ω} {rank : Nat} : Advances r r rank rank := .inr ⟨.refl _, .refl _⟩

theorem Advances.trans {r r' r'' : Relays ω} {rank rank' rank'' : Nat} (h : Advances r r' rank rank')
    (h' : Advances r' r'' rank' rank'') : Advances r r'' rank rank'' := by
  rcases h with h | ⟨heq, hwoken⟩
  · rcases h' with h' | ⟨heq', -⟩
    · exact .inl (h'.trans h)
    · exact .inl (heq' ▸ h)
  · rcases h' with h' | ⟨heq', hwoken'⟩
    · exact .inl (heq ▸ h')
    · exact .inr ⟨heq'.trans heq, hwoken'.trans hwoken⟩

theorem Advances.le {r r' : Relays ω} {rank rank' : Nat} (h : Advances r r' rank rank') :
    rank' ≤ rank := by
  rcases h with h | ⟨heq, -⟩
  · exact Nat.le_of_lt h
  · exact Nat.le_of_eq heq

namespace Attempt
variable [Collaborators ω] {a : Attempt} {now : Nat} {id : ProcessId} {r r' : Relays ω} {p p' : Phase}

theorem Move.advances (move : a.Move now id (r, p) (r', p')) : Advances r r' p.rank p'.rank := by
  cases move with
  | share => exact .rfl
  | resume good =>
    cases hprogress : (r.signatures.resume id).progress with
    | wait =>
      refine .inr ⟨rfl, ?_⟩
      rw [SignatureCache.resume_of_wait hprogress]
      exact List.append_nil _
    | compute => exact .inl (by decide : 6 < 7)
    | done result => exact .inl (by decide : 4 < 7)
  | begin protocol good => exact .inl (Nat.lt_succ_of_le (Phase.rank_looked_le _))
  | refuse early bad =>
    rcases early with rfl | rfl
    · exact .inl (by decide : 0 < 8)
    · exact .inl (by decide : 0 < 7)
  | lapse due unready => exact .inl (AttemptStage.rank_pos _)
  | enter fallback => exact .inl (by decide : 3 < 8)
  | sign good => exact .inl (by decide : 5 < 6)
  | signed ready => exact .inl (by decide : 4 < 5)
  | unsigned => exact .inl (by decide : 0 < 4)
  | queue => exact .inl (by decide : 3 < 4)
  | post holds => exact .inl (by decide : 2 < 3)
  | unposted ready => exact .inl (by decide : 0 < 2)
  | accept fallback ready => exact .inl (by decide : 0 < 2)
  | validate protocol ready => exact .inl (by decide : 1 < 2)
  | invalid ready => exact .inl (by decide : 0 < 1)
  | valid ready => exact .inl (by decide : 0 < 1)

theorem Turned.advances {s : Relays ω × AttemptProgress} (h : a.Turned now id (r, p) s) :
    Advances r s.1 p.rank s.2.phase.rank :=
  h.keeps (fun r' p' => Advances r r' p.rank p'.rank) (fun move h => h.trans move.advances) .rfl

omit [Collaborators ω] in
theorem lt_of_mem_alarms {stage : AttemptStage} (early : now < a.deadline)
    (unready : stage.Unready now id r) : ∀ alarm ∈ a.alarms stage, now < alarm := by
  have hpending : ∀ {α : Type} {answer : Pending α}, answer.ready? now = none →
      ∀ alarm ∈ answer.due.toList, now < alarm :=
    fun hready alarm halarm => Pending.lt_of_ready?_eq_none hready (Option.mem_toList.1 halarm)
  intro alarm halarm
  rcases List.mem_append.1 halarm with hdue | hdeadline
  · cases stage with
    | signing answer => exact hpending unready alarm hdue
    | sharing => cases hdue
    | queueing body => cases hdue
    | posting reply => exact hpending unready alarm hdue
    | validating verdict => exact hpending unready alarm hdue
  · rwa [List.mem_singleton.1 hdeadline]

end Attempt

/-! ## Turns of a participant -/

/-- With an attempt to turn to there is more to go than with any attempt that is the last. -/
def Dispatch.rank (d : Dispatch) : Nat := d.stage.rank + if d.retry.isSome then 9 else 0

def Standing.rank : Standing Dispatch → Nat
  | running d => d.rank
  | _ => 0

def PermitCall.rank : PermitCall → Nat
  | waiting _ => 1
  | _ => 0

def Participant.rank : Participant ω → Nat
  | delivery x => x.standing.rank
  | permit p => p.rank

namespace Delivery
variable [Collaborators ω] {now : Nat} {id : ProcessId} {x : Delivery ω} {d : Dispatch}

theorem rank_of (now deadline : Nat) (payload : RelayPayload) (a : Attempt) (retry : Option Endpoint)
    (progress : AttemptProgress) :
    ((DispatchProgress.of payload deadline a retry progress).standing now).rank ≤
      progress.phase.rank + if retry.isSome then 9 else 0 := by
  cases progress with
  | waiting stage => exact Nat.le_refl _
  | done result => exact Nat.zero_le _

theorem advances_of_goes {payload : RelayPayload} {deadline : Nat} {leg : Leg ω} {retry : Option Endpoint}
    {stage : AttemptStage} {r : Relays (Ledger ω)} {s : Relays (Ledger ω) × AttemptProgress}
    {legs : List (Leg ω)} {r' : Relays (Ledger ω)} {progress : DispatchProgress}
    (h : Advances r s.1 stage.rank s.2.phase.rank)
    (goes : Leg.Goes now id payload deadline leg retry s legs r' progress) :
    Advances r r' (stage.rank + if retry.isSome then 9 else 0) (progress.standing now).rank := by
  cases goes with
  | @on retry r' progress last =>
    have hle := rank_of now deadline payload leg.attempt retry progress
    rcases h with h | ⟨heq, hwoken⟩
    · exact .inl (Nat.lt_of_le_of_lt hle (Nat.add_lt_add_right h _))
    · cases progress with
      | waiting stage' =>
        have heq' : stage'.rank = stage.rank := heq
        exact .inr ⟨congrArg (· + _) heq', hwoken⟩
      | done result => exact absurd heq (Nat.ne_of_lt stage.rank_pos)
  | @further fallback r₁ e a attempt =>
    have hle := rank_of now deadline payload a none (a.start now id r₁).2
    have hstart := (a.start_turned now id r₁).advances.le
    have hfresh : Phase.fresh.rank = 8 := rfl
    have hpos := stage.rank_pos
    refine .inl ?_
    simp only [Option.isSome_none, Option.isSome_some, if_true] at hle ⊢
    simp only [Bool.false_eq_true, if_false] at hle
    omega

theorem advances_resume (x : Delivery ω) (d : Dispatch) (now : Nat) (id : ProcessId)
    (r : Relays (Ledger ω)) :
    Advances r (x.resume d now id r).2 d.rank (x.resume d now id r).1.standing.rank :=
  advances_of_goes (d.attempt.resume_turned now id r d.stage).advances
    (Leg.goes now id d.payload d.deadline (⟨d.attempt, [], .dropped⟩ : Leg ω) d.retry x.context _)

theorem lt_of_mem_alarms (x : Delivery ω) (d : Dispatch) (now : Nat) (id : ProcessId)
    (r : Relays (Ledger ω)) :
    ∀ alarm ∈ (Participant.delivery (x.resume d now id r).1).alarms, now < alarm := by
  have hrests : Rests (fun _ _ _ => True) now id (x.resume d now id r).2
      (x.resume d now id r).1.standing :=
    resume_rests _ (fun _ _ => trivial) (fun _ => trivial) x trivial
  unfold Participant.alarms
  dsimp only
  generalize (x.resume d now id r).1.standing = standing at hrests
  cases hrests with
  | running d' holds early unready => exact Attempt.lt_of_mem_alarms early unready
  | ended a result holds => nofun

end Delivery

namespace PermitCall
variable {now : Nat} {id : ProcessId} {deadline : Option Nat} {r : Relays (Ledger ω)}

theorem advances_look : Advances r (look now id deadline r).2 1 (look now id deadline r).1.rank := by
  unfold look
  dsimp only
  split
  · exact .inl Nat.zero_lt_one
  · split
    · exact .inl Nat.zero_lt_one
    · exact .inr ⟨rfl, rfl⟩

theorem lt_of_mem_alarms :
    ∀ alarm ∈ (Participant.permit (look now id deadline r).1 : Participant ω).alarms, now < alarm := by
  unfold look
  dsimp only
  split
  · nofun
  · split
    · nofun
    · rename_i hover
      intro alarm halarm
      have hdeadline : deadline = some alarm := Option.mem_toList.1 halarm
      rw [hdeadline] at hover
      simpa using hover

end PermitCall

/-! ## Everyone together -/

namespace Relaying
variable {t t' : Relaying ω} {id : ProcessId} {p p' : Participant ω} {r : Relays (Ledger ω)}

def rank (t : Relaying ω) : Nat := (t.participants.entries.map fun e => e.2.rank).sum

theorem rank_put (found : t.participants.find? id = some p) :
    (t.put id p' r).rank + p.rank = t.rank + p'.rank := by
  have hsum := Table.sum_replace Participant.rank id p' (l := t.participants.entries)
  rw [show Table.lookup id t.participants.entries = some p from found] at hsum
  exact hsum

theorem finite_canRun (t : Relaying ω) : {id | t.CanRun id}.Finite := by
  refine (List.finite_toSet t.participants.keys).subset ?_
  rintro id ⟨p, found, -⟩
  exact (Table.mem_keys_iff ..).2 ⟨p, found⟩

/-- Who has been woken for nothing cannot run any more, and nobody else can who could not before. -/
theorem canRun_put_ssubset (h : t.CanRun id) (hwoken : r.woken = (t.relaysFor id).woken)
    (halarms : ∀ alarm ∈ p'.alarms, t.now < alarm) :
    {x | (t.put id p' r).CanRun x} ⊂ {x | t.CanRun x} := by
  have hself : ¬ (t.put id p' r).CanRun id := by
    rintro ⟨q, found, -, hmem | ⟨alarm, halarm, hle⟩⟩
    · rw [show (t.put id p' r).relays.woken = r.woken from rfl, hwoken] at hmem
      have hne := (List.mem_filter.1 hmem).2
      simp at hne
    · cases (Table.find?_insert_self ..).symm.trans found
      exact absurd hle (Nat.not_le_of_lt (halarms alarm halarm))
  refine ⟨?_, fun hall => hself (hall h)⟩
  rintro x ⟨q, found, running, hcan⟩
  have hx : x ≠ id := by
    rintro rfl
    exact hself ⟨q, found, running, hcan⟩
  refine ⟨q, (Table.find?_insert_of_ne _ hx _).symm.trans found, running, hcan.imp_left fun hmem => ?_⟩
  rw [show (t.put id p' r).relays.woken = r.woken from rfl, hwoken] at hmem
  exact (List.mem_filter.1 hmem).1

variable [Collaborators ω]

/-- A turn of one who can run brings him further on, and after it he waits for something later. -/
theorem turn_of_canRun (h : t.CanRun id) :
    ∃ p p' r, t.participants.find? id = some p ∧ t.turn id = t.put id p' r ∧
      Advances (t.relaysFor id) r p.rank p'.rank ∧ ∀ alarm ∈ p'.alarms, t.now < alarm := by
  obtain ⟨p, found, running, -⟩ := h
  rcases t.turn_cases id with ⟨x, d, found', hrunning, heq⟩ | ⟨deadline, found', heq⟩ | ⟨-, idle⟩
  · refine ⟨_, _, _, found', heq, ?_, Delivery.lt_of_mem_alarms x d t.now id _⟩
    rw [Participant.rank, hrunning]
    exact Delivery.advances_resume x d t.now id _
  · exact ⟨_, _, _, found', heq, PermitCall.advances_look, PermitCall.lt_of_mem_alarms⟩
  · cases running.symm.trans (idle p found)

/-- A turn of one who can run lowers the rank of all, or leaves it and lets fewer run. -/
theorem turn_lowers (h : t.CanRun id) : (t.turn id).rank < t.rank ∨
    (t.turn id).rank = t.rank ∧ {x | (t.turn id).CanRun x} ⊂ {x | t.CanRun x} := by
  obtain ⟨p, p', r, found, heq, hadvances, halarms⟩ := turn_of_canRun h
  have hrank : (t.put id p' r).rank + p.rank = t.rank + p'.rank := rank_put found
  rw [heq]
  -- Who has been woken for nothing leaves the rank as it is, but he cannot run again.
  rcases hadvances with hlt | ⟨hsame, hwoken⟩
  · exact .inl (by omega)
  · exact .inr ⟨by omega, canRun_put_ssubset h hwoken halarms⟩

/-- What happens next when nothing happens from outside: somebody who can run has a turn, or the clock
moves. -/
inductive Next (t : Relaying ω) : Relaying ω → Prop
  | turn (id : ProcessId) (can : t.CanRun id) : Next t (t.turn id)
  | wait {now : Nat} (idle : t.Idle now) : Next t { t with now }

def Runs (t : Relaying ω) (id : ProcessId) : Prop := ∃ x d, t.Delivers id x ∧ x.standing = .running d

omit [Collaborators ω] in
theorem isRunning_of_mem_alarms {alarm : Nat} (h : alarm ∈ p.alarms) : p.isRunning = true := by
  cases p with
  | delivery x =>
    unfold Participant.alarms at h
    unfold Participant.isRunning
    dsimp only at h ⊢
    cases hrunning : x.standing.running? with
    | none =>
      rw [hrunning] at h
      cases h
    | some d => rfl
  | permit p =>
    cases p with
    | waiting deadline => rfl
    | held => cases h
    | gone => cases h

theorem exists_next (t : Relaying ω) : ∃ t', t.Next t' := by
  by_cases hcan : ∃ id, t.CanRun id
  · obtain ⟨id, hid⟩ := hcan
    exact ⟨_, .turn id hid⟩
  · refine ⟨{ t with now := t.now + 1 }, .wait ⟨Nat.lt_succ_self _, fun id h => hcan ⟨id, h⟩, ?_⟩⟩
    intro id p found alarm halarm
    refine Nat.lt_of_not_le fun hle => hcan ⟨id, p, found, isRunning_of_mem_alarms halarm, .inr ?_⟩
    exact ⟨alarm, halarm, hle⟩

variable {config : RelayConfig} {signatures : SignatureCacheConfig} {x x' : Delivery ω}

theorem ReachedInTime.next (h : ReachedInTime config signatures t) (next : t.Next t') :
    ReachedInTime config signatures t' := by
  cases next with
  | turn id can => exact h.act (.turn id)
  | wait idle => exact h.wait idle

theorem ReachedInTime.now_le (h : ReachedInTime config signatures t) (delivers : t.Delivers id x)
    {d : Dispatch} (running : x.standing = .running d) :
    t.now ≤ d.attempt.deadline ∧ d.attempt.deadline ≤ x.deadline config := by
  have hshape := (h.reached.ran.2 id x delivers).shape
  obtain ⟨leg, earlier, legs, attempt, -⟩ := hshape.running running
  refine ⟨(h.inTime id x delivers).running d running, ?_⟩
  exact attempt ▸ hshape.leg_deadline (legs ▸ List.mem_cons_self)

theorem deadline_of_next (next : t.Next t') (delivers : t.Delivers id x) (delivers' : t'.Delivers id x') :
    x'.deadline config = x.deadline config := by
  cases next with
  | wait idle =>
    cases delivers.symm.trans delivers'
    rfl
  | turn id' can =>
    rcases t.turn_cases id' with ⟨y, d, found, running, heq⟩ | ⟨deadline, found, heq⟩ | ⟨heq, -⟩
    · rw [heq] at delivers'
      rcases delivers_put delivers' with ⟨rfl, hx'⟩ | ⟨-, hx'⟩
      · cases hx'
        cases delivers.symm.trans found
        rfl
      · cases delivers.symm.trans hx'
        rfl
    · rw [heq] at delivers'
      rcases delivers_put delivers' with ⟨rfl, hx'⟩ | ⟨-, hx'⟩
      · cases hx'
      · cases delivers.symm.trans hx'
        rfl
    · rw [heq] at delivers'
      cases delivers.symm.trans delivers'
      rfl

/-- How long a run can still go on before the time `limit`: the time that is left, what everyone has still
to go, and how many can run. -/
noncomputable def remaining (limit : Nat) (t : Relaying ω) : ℕ ×ₗ ℕ ×ₗ ℕ :=
  toLex (limit - t.now, toLex (t.rank, {id | t.CanRun id}.ncard))

theorem remaining_lt {limit : Nat} (next : t.Next t') (hnow : t'.now ≤ limit) :
    remaining limit t' < remaining limit t := by
  unfold remaining
  cases next with
  | wait idle =>
    refine Prod.Lex.toLex_lt_toLex.2 (.inl ?_)
    have := idle.later
    dsimp only at hnow ⊢
    omega
  | turn id can =>
    have hsame : (t.turn id).now = t.now := (acted_turn t id).now_eq
    refine Prod.Lex.toLex_lt_toLex.2 (.inr ⟨by rw [hsame], Prod.Lex.toLex_lt_toLex.2 ?_⟩)
    rcases turn_lowers can with hlt | ⟨heq, hfewer⟩
    · exact .inl hlt
    · exact .inr ⟨heq, Set.ncard_lt_ncard hfewer t.finite_canRun⟩

/-- No run goes on for ever while a dispatch still runs. -/
theorem ReachedInTime.no_endless_run (h : ReachedInTime config signatures t) (id : ProcessId) :
    ¬ ∃ s : Nat → Relaying ω, s 0 = t ∧ ∀ n, (s n).Next (s (n + 1)) ∧ (s n).Runs id := by
  rintro ⟨s, rfl, hs⟩
  have hreached : ∀ n, ReachedInTime config signatures (s n) := by
    intro n
    induction n with
    | zero => exact h
    | succ n ih => exact ih.next (hs n).1
  obtain ⟨x, d, delivers, running⟩ := (hs 0).2
  have hdeadline : ∀ n x', (s n).Delivers id x' → x'.deadline config = x.deadline config := by
    intro n
    induction n with
    | zero =>
      intro x' delivers'
      cases delivers.symm.trans delivers'
      rfl
    | succ n ih =>
      intro x' delivers'
      obtain ⟨y, d, hy, -⟩ := (hs n).2
      exact (deadline_of_next (hs n).1 hy delivers').trans (ih y hy)
  have hnow : ∀ n, (s n).now ≤ x.deadline config := by
    intro n
    obtain ⟨y, d, hy, hrunning⟩ := (hs n).2
    rw [← hdeadline n y hy]
    exact Nat.le_trans ((hreached n).now_le hy hrunning).1 ((hreached n).now_le hy hrunning).2
  -- Until the deadline every step lowers what remains, and that cannot go on for ever.
  refine not_strictAnti_of_wellFoundedLT (fun n => remaining (x.deadline config) (s n)) ?_
  exact strictAnti_nat_of_succ_lt fun n => remaining_lt (hs n).1 (hnow (n + 1))

/-! ## Returning in time -/

structure OnTime (config : RelayConfig) (t : Relaying ω) (id : ProcessId) (x : Delivery ω) : Prop where
  /-- Whatever it returned, it returned within its time. -/
  returned : ∀ now result, x.standing = .ended now result →
    now ≤ x.startedAt + Dispatch.timeoutOf config x.payload
  /-- While it runs it is within its time, and a turn at the very end of it is its last. -/
  running : ∀ d, x.standing = .running d →
    t.now ≤ x.startedAt + Dispatch.timeoutOf config x.payload ∧
      (t.now = x.startedAt + Dispatch.timeoutOf config x.payload → t.CanRun id ∧
        ∀ y, (t.turn id).Delivers id y → ∃ result, y.standing = .ended t.now result)
  /-- While it runs the run can go on, and it does not go on for ever without the dispatch returning. -/
  returns : ∀ d, x.standing = .running d → (∃ t', t.Next t') ∧
    ¬ ∃ s : Nat → Relaying ω, s 0 = t ∧ ∀ n, (s n).Next (s (n + 1)) ∧ (s n).Runs id
  /-- In rollover, with a fallback to turn to, the attempt at a protocol endpoint has the time of the wait,
  at most. -/
  first : ∀ endpoint, x.origin.dispatchable = .ok endpoint → endpoint.isFallback = false →
    x.origin.inRollover = true → x.origin.fallbacks.isEmpty = false →
    ∃ leg, x.legs.getLast? = some leg ∧ leg.attempt.endpoint = endpoint ∧
      (∀ now result, leg.standing = .ended now result → now ≤ x.startedAt +
        min (Dispatch.timeoutOf config x.payload) config.rolloverFallbackWait) ∧
      ∀ stage, leg.standing = .running stage → t.now ≤ x.startedAt +
        min (Dispatch.timeoutOf config x.payload) config.rolloverFallbackWait
  /-- An attempt runs into its deadline at that very time, when what it waits for has not come by then. -/
  lapse : ∀ leg ∈ x.legs, ∀ now e, leg.standing = .ended now (.error e) → e.IsLapse →
    now = leg.attempt.deadline ∧
      ∃ turn ∈ leg.turns, turn.now = now ∧
        ∃ p, leg.attempt.Lapsed now id (turn.before, p) turn.after e

theorem ReachedInTime.ended_of_due (h : ReachedInTime config signatures t) (delivers : t.Delivers id x)
    {d : Dispatch} (running : x.standing = .running d) (due : t.now = x.deadline config)
    (delivers' : (t.turn id).Delivers id x') : ∃ result, x'.standing = .ended t.now result := by
  have hturn : t.turn id = t.put id (.delivery (x.resume d t.now id (t.relaysFor id)).1)
      (x.resume d t.now id (t.relaysFor id)).2 := by
    unfold turn
    rw [show t.participants.find? id = some (.delivery x) from delivers]
    dsimp only
    rw [running]
  have hnow : ∀ d', x'.standing = .running d' → d'.attempt.deadline ≤ x'.deadline config :=
    fun d' running' => ((h.act (.turn id)).now_le delivers' running').2
  rw [hturn] at delivers'
  rcases delivers_put delivers' with ⟨-, heq⟩ | ⟨hne, -⟩
  · cases heq
    have hrests : Delivery.Rests (fun _ _ _ => True) t.now id _
        (x.resume d t.now id (t.relaysFor id)).1.standing :=
      Delivery.resume_rests _ (fun _ _ => trivial) (fun _ => trivial) x trivial
    generalize (x.resume d t.now id (t.relaysFor id)).1.standing = standing at hrests hnow ⊢
    cases hrests with
    | ended a result holds => exact ⟨result, rfl⟩
    | running d' holds early unready =>
      exact absurd (Nat.lt_of_lt_of_le early (hnow d' rfl)) (due ▸ Nat.lt_irrefl _)
  · exact absurd rfl hne

/-- Whatever the signer, the limiter, the transport and the chain do, and whatever else goes on, a dispatch
returns within its time. -/
theorem ReachedInTime.onTime (h : ReachedInTime config signatures t) (delivers : t.Delivers id x) :
    OnTime config t id x := by
  have hran := (h.reached.ran.2 id x delivers)
  have hshape := hran.shape
  have htime := h.inTime id x delivers
  constructor
  · exact fun now result ended => hshape.ended_le htime.legs ended
  · intro d running
    obtain ⟨hattempt, hdeadline⟩ := h.now_le delivers running
    refine ⟨Nat.le_trans hattempt hdeadline, fun due => ⟨?_, ?_⟩⟩
    · have hruns : (Participant.delivery x).isRunning = true := by
        rw [Participant.isRunning, running]
        rfl
      exact ⟨_, delivers, hruns, .inr ⟨_, deadline_mem_alarms running, due ▸ hdeadline⟩⟩
    · exact fun y delivers' => h.ended_of_due delivers running due delivers'
  · exact fun d running => ⟨t.exists_next, h.no_endless_run id⟩
  · intro endpoint chosen protocol rollover fallbacks
    obtain ⟨fallback, hleast⟩ := EndpointMap.exists_least? fallbacks
    have hfallback : x.origin.rolloverFallback? = some fallback := by
      unfold RequestContext.rolloverFallback?
      rw [rollover]
      exact hleast
    have hdeadline : (x.first config endpoint).1.deadline = _ :=
      Delivery.first_deadline_of_fallback protocol hfallback
    obtain ⟨leg, hleg, oldest, attempt, hrunning⟩ := hshape.oldest chosen
    refine ⟨leg, oldest, attempt ▸ Delivery.first_endpoint config x endpoint, ?_, ?_⟩
    · intro now result ended
      rw [← hdeadline, ← attempt]
      exact (htime.legs leg hleg).ended_le (hshape.leg_ran hleg) ended
    · intro stage running
      obtain ⟨d, hd, hattempt⟩ := hrunning stage running
      rw [← hdeadline, ← attempt, ← hattempt]
      exact htime.running d hd
  · intro leg hleg now e ended lapse
    have hleg_ran := hshape.leg_ran hleg
    obtain ⟨turn, hturn, hnow, p, lapsed⟩ := hleg_ran.lapsed ended lapse
    have hle := (htime.legs leg hleg).ended_le hleg_ran ended
    exact ⟨Nat.le_antisymm hle lapsed.due, turn, hturn, hnow, p, lapsed⟩

section Example

omit [Collaborators ω] in
theorem Idle.of_entries {now : Nat} (later : t.now < now)
    (h : ∀ e ∈ t.participants.entries, e.2.isRunning = true →
      e.1 ∉ t.relays.woken ∧ ∀ alarm ∈ e.2.alarms, now ≤ alarm) : t.Idle now := by
  refine ⟨later, ?_, fun id p found alarm halarm =>
    (h _ (Table.mem_of_lookup found) (isRunning_of_mem_alarms halarm)).2 alarm halarm⟩
  rintro id ⟨p, found, running, hwoken | ⟨alarm, halarm, hle⟩⟩
  · exact (h _ (Table.mem_of_lookup found) running).1 hwoken
  · exact absurd ((h _ (Table.mem_of_lookup found) running).2 alarm halarm) (by omega)

def rolloverConfig : RelayConfig := ⟨1, 1000, 20⟩

def rolloverContext : RequestContext :=
  let session : Session := ⟨⟨"session", "eth", "app", 1, 5⟩, some ⟨"app", "", ["eth"]⟩, []⟩
  ((RequestContext.new default "eth" (.ofEndpoints [.ofSession "node" "https://node" none session])
    (fallbackEndpoints ["https://spare"]) true).selectEndpoint fun addrs => .ok (addrs.headD default)).1

def tardyScript : Script :=
  { (default : Script) with
    signer := ⟨1000, none, default⟩, transport := [⟨"https://spare", 30, none, none⟩] }

def tardy : Relaying Script :=
  (start rolloverConfig default tardyScript).dispatch 0 rolloverContext ⟨[], "", .jsonRpc, some 50⟩

def turnedOver : Relaying Script := ({ tardy with now := 20 }).turn 0

def justInTime : Relaying Script := ({ turnedOver with now := 50 }).turn 0

theorem reachedInTime_turnedOver : ReachedInTime rolloverConfig default turnedOver := by
  have htardy : ReachedInTime rolloverConfig default tardy :=
    (ReachedInTime.start tardyScript).act (.dispatch 0 _ _ rfl)
  exact (htardy.wait (.of_entries (by decide +kernel) (by decide +kernel))).act (.turn 0)

def legEnds : Participant Script → List (Nat × Bool)
  | .delivery x => x.legs.filterMap fun leg =>
    match leg.standing with
    | .ended now result => some (now, result.isOk)
    | _ => none
  | .permit _ => []

/-- The first attempt ends with the wait for it, and the reply to the second comes at the very end. -/
theorem onTime_just : ReachedInTime rolloverConfig default justInTime ∧
    ∃ x, justInTime.Delivers 0 x ∧ legEnds (.delivery x) = [(50, true), (20, false)] ∧
      OnTime rolloverConfig justInTime 0 x := by
  have hreached : ReachedInTime rolloverConfig default justInTime :=
    (reachedInTime_turnedOver.wait (.of_entries (by decide +kernel) (by decide +kernel))).act (.turn 0)
  have hends : (justInTime.participants.find? 0).map legEnds = some [(50, true), (20, false)] := by
    decide +kernel
  obtain ⟨p, delivers, hp⟩ := Option.map_eq_some_iff.1 hends
  cases p with
  | delivery x => exact ⟨hreached, x, delivers, hp, hreached.onTime delivers⟩
  | permit p => cases hp

end Example

end Relaying

end RelayGateway
