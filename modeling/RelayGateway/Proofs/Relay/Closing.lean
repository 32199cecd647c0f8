import RelayGateway.Proofs.Relay.Moves
import RelayGateway.Proofs.Relay.States

/-! # What closes a context

A dispatch that starts closes its context, and so does a selection that fails: either way every later call is
told that the context was dispatched. Nothing else is told so, neither a call on a context that is open nor
a dispatch at its end.
-/
namespace RelayGateway
variable {ω : Type}

/-! ## What an attempt fails with -/

inductive RelayError.OfAttempt : RelayError → Prop
  | missingApplication (sessionId : String) : OfAttempt (.missingApplication sessionId)
  | signing (app : String) (cause : SignerError) : OfAttempt (.signing app cause)
  | concurrencyLimit : OfAttempt .concurrencyLimit
  | timeout : OfAttempt .timeout
  | transport (cause : TransportError) : OfAttempt (.transport cause)
  | validation (endpoint : EndpointAddr) (cause : ChainError) : OfAttempt (.validation endpoint cause)

theorem AttemptStage.lapse_ofAttempt (stage : AttemptStage) : stage.lapse.OfAttempt := by
  cases stage with
  | queueing body => exact .concurrencyLimit
  | _ => exact .timeout

namespace Attempt
variable {a : Attempt} {now : Nat} {id : ProcessId} {r r' : Relays ω} {p p' : Phase} {e : RelayError}

theorem ofAttempt_of_refused (bad : a.request? = .error e) : e.OfAttempt := by
  unfold request? at bad
  split at bad
  · cases bad
    exact .missingApplication _
  split at bad
  · cases bad
    exact .missingApplication _
  dsimp only at bad
  split at bad
  · cases bad
    exact .signing _ _
  · cases bad

variable [Collaborators ω] {s : Relays ω × AttemptProgress}

theorem Move.ofAttempt (move : a.Move now id (r, p) (r', p')) :
    ∀ e, p' = .ended (.error e) → e.OfAttempt := by
  rintro e rfl
  cases move with
  | refuse early bad => exact ofAttempt_of_refused bad
  | unsigned => exact .signing _ _
  | unposted ready => exact .transport _
  | invalid ready => exact .validation _ _
  | lapse due unready => exact AttemptStage.lapse_ofAttempt _

theorem Turned.ofAttempt (h : a.Turned now id (r, p) s) (hrunning : ∀ e, p ≠ .ended (.error e))
    (hended : s.2 = .done (.error e)) : e.OfAttempt := by
  have hphase := h.keeps (fun _ p => ∀ e, p = .ended (.error e) → e.OfAttempt)
    (fun move _ => move.ofAttempt) fun e heq => absurd heq (hrunning e)
  exact hphase e (congrArg AttemptProgress.phase hended)

theorem start_ofAttempt (hended : (a.start now id r).2 = .done (.error e)) : e.OfAttempt :=
  (a.start_turned now id r).ofAttempt nofun hended

theorem resume_ofAttempt {stage : AttemptStage}
    (hended : (a.resume now id r stage).2 = .done (.error e)) : e.OfAttempt :=
  (a.resume_turned now id r stage).ofAttempt nofun hended

end Attempt

namespace Dispatch
variable {now deadline : Nat} {id : ProcessId} {payload : RelayPayload} {a : Attempt}
variable {retry : Option Endpoint} {c : RequestContext} {e : RelayError}

theorem afterLast_ofAttempt {s : Relays ω × AttemptProgress}
    (h : ∀ e, s.2 = .done (.error e) → e.OfAttempt)
    (hresult : (afterLast now payload deadline a c s).2.2.result? = some (.error e)) : e.OfAttempt := by
  obtain ⟨r, progress⟩ := s
  cases progress with
  | waiting stage => cases hresult
  | done result =>
    cases result with
    | ok response => cases hresult
    | error e' =>
      cases hresult
      exact h e rfl

/-- A dispatch fails with what its last attempt fails with. -/
theorem advance_ofAttempt [Collaborators ω] {s : Relays ω × AttemptProgress}
    (h : ∀ e, s.2 = .done (.error e) → e.OfAttempt)
    (hresult : (advance now id payload deadline a retry c s).2.2.result? = some (.error e)) :
    e.OfAttempt := by
  cases retry with
  | none => exact afterLast_ofAttempt h hresult
  | some fallback =>
    obtain ⟨r, progress⟩ := s
    cases progress with
    | waiting stage => cases hresult
    | done result =>
      cases result with
      | ok response => cases hresult
      | error e' => exact afterLast_ofAttempt (fun _ => Attempt.start_ofAttempt) hresult

theorem advance_service [Collaborators ω] {s : Relays (Recorder ω) × AttemptProgress} :
    (advance now id payload deadline a retry c s).1.service = c.service := by
  have hcontext : ∃ state observations,
      (advance now id payload deadline a retry c s).1 = { c with state, observations } := advance_context
  obtain ⟨state, observations, heq⟩ := hcontext
  rw [heq]

theorem begin_ofAttempt [Collaborators ω] {config : RelayConfig} {r : Relays ω} {endpoint : Endpoint}
    (hc : c.dispatchable = .ok endpoint)
    (hresult : (begin config now id payload c r).2.2.result? = some (.error e)) : e.OfAttempt := by
  unfold begin at hresult
  rw [hc] at hresult
  exact advance_ofAttempt (fun _ => Attempt.start_ofAttempt) hresult

end Dispatch

namespace RequestContext
variable {c : RequestContext}

theorem selectEndpoint_told (hopen : c.state = .built ∨ c.state = .selected)
    (choose : List EndpointAddr → Except String EndpointAddr) (service : ServiceId) :
    (c.selectEndpoint choose).2 ≠ .error (.alreadyDispatched service) := by
  intro told
  unfold selectEndpoint at told
  rw [if_pos hopen] at told
  split at told
  · cases told
  · cases hchoice : choose c.candidates with
    | error reason =>
      rw [hchoice] at told
      cases told
    | ok addr =>
      rw [hchoice] at told
      dsimp only at told
      split at told <;> cases told

theorem dispatchable_of_built (h : c.state = .built) :
    c.dispatchable = .error (.noEndpointSelected c.service) := by
  unfold dispatchable
  rw [h]
  rfl

theorem dispatchable_of_past (h : c.state ≠ .built ∧ c.state ≠ .selected) :
    c.dispatchable = .error (.alreadyDispatched c.service) := by
  unfold dispatchable
  rw [if_neg h.2, if_neg h.1]

end RequestContext

namespace Handling
variable [Collaborators ω] {h : Handling} {x : Action ω} {c : RequestContext}
variable {actions : List (Action ω)}

/-! ## What happens to a context -/

/-- A call of its own, and not the course of one. -/
def Action.IsCall : Action ω → Prop
  | .select _ => True
  | .begin .. => True
  | .resume .. => False
  | .drop .. => False

def Chooses (h : Handling) (x : Action ω) : Prop :=
  h.Possible x ∧ (∃ choose, x = .select choose) ∧ h.answer? x = some (.ok ())

def GivesUp (h : Handling) (x : Action ω) : Prop :=
  h.Possible x ∧ (∃ choose, x = .select choose) ∧ Admits h.context.state x ∧
    ∃ e, h.answer? x = some (.error e)

def Occurred (event : Handling → Action ω → Prop) (c : RequestContext) (actions : List (Action ω)) :
    Prop :=
  ∃ before x after, actions = before ++ x :: after ∧ event (run c before) x

theorem occurred_singleton {event : Handling → Action ω → Prop} :
    Occurred event c [x] ↔ event (start c) x := by
  constructor
  · rintro ⟨before, y, after, heq, hevent⟩
    obtain ⟨rfl, hrest⟩ | ⟨rest, rfl, hrest⟩ := List.cons_eq_append_iff.1 heq
    · cases hrest
      exact hevent
    · cases List.append_eq_nil_iff.1 hrest.symm |>.2
  · exact fun hevent => ⟨[], x, [], rfl, hevent⟩

/-- What does not hold at first and holds in the end has come to hold by one of the actions. -/
theorem occurred_change {p : Handling → Prop} (first : ¬ p (start c)) (last : p (run c actions)) :
    Occurred (fun h x => ¬ p h ∧ p (h.act x)) c actions := by
  induction actions using List.reverseRecOn with
  | nil => exact absurd last first
  | append_singleton actions x ih =>
    by_cases hbefore : p (run c actions)
    · obtain ⟨before, y, after, rfl, hchange⟩ := ih hbefore
      exact ⟨before, y, after ++ [x], by simp, hchange⟩
    · rw [run_concat] at last
      exact ⟨actions, x, [], rfl, hbefore, last⟩

/-- A selection on an open context succeeds or fails. -/
theorem chooses_or_givesUp {choose : List EndpointAddr → Except String EndpointAddr}
    (possible : h.Possible (.select choose : Action ω))
    (admitted : Admits h.context.state (.select choose : Action ω)) :
    (h.Chooses (.select choose : Action ω) ∧
      (h.act (.select choose : Action ω)).context.state = .selected) ∨
    h.GivesUp (.select choose : Action ω) := by
  rw [act_select possible]
  rcases RequestContext.selectEndpoint_of_open admitted choose with
    ⟨e, hanswer, hcontext⟩ | ⟨e, kind, hanswer, hcontext⟩
  · refine .inl ⟨⟨possible, ⟨choose, rfl⟩, ?_⟩, ?_⟩
    · dsimp only [answer?]
      rw [hanswer]
      rfl
    · rw [hcontext]
  · refine .inr ⟨possible, ⟨choose, rfl⟩, admitted, e, ?_⟩
    dsimp only [answer?]
    rw [hanswer]
    rfl

theorem Staged.isPast_of_givesUp (h₀ : Staged h) (givesUp : h.GivesUp x) : (h.act x).IsPast := by
  obtain ⟨possible, ⟨choose, rfl⟩, admitted, e, hanswer⟩ := givesUp
  have htransition := h₀.transition possible admitted
  unfold IsPast
  rw [hanswer] at htransition
  generalize (h.act (.select choose : Action ω)).context.state = s at htransition ⊢
  generalize h.context.state = s₀ at htransition
  cases htransition with
  | refuse early e => exact ⟨nofun, nofun⟩

omit [Collaborators ω] in
theorem isPast_of_dispatched (hstate : h.context.state = .dispatched) : h.IsPast := by
  unfold IsPast
  rw [hstate]
  exact ⟨nofun, nofun⟩

/-- Only a selection that fails or a dispatch that starts ends the selections. -/
theorem Staged.closes (h₀ : Staged h) (hopen : ¬ h.IsPast) (past : (h.act x).IsPast) :
    h.GivesUp x ∨ h.Starts x := by
  rcases h₀.act_cases x with ⟨possible, admitted⟩ | hsame
  · cases x with
    | select choose =>
      rcases chooses_or_givesUp possible admitted with ⟨-, hselected⟩ | givesUp
      · exact absurd hselected past.2
      · exact .inl givesUp
    | begin config now id payload r => exact .inr ⟨admitted, config, now, id, payload, r, rfl⟩
    | resume now id r => exact absurd (isPast_of_dispatched admitted) hopen
    | drop id r => exact absurd (isPast_of_dispatched admitted) hopen
  · rw [hsame] at past
    exact absurd past hopen

/-- Only a selection leads on from the beginning. -/
theorem Staged.leaves (h₀ : Staged h) (built : h.context.state = .built)
    (left : (h.act x).context.state ≠ .built) : h.Chooses x ∨ h.GivesUp x := by
  rcases h₀.act_cases x with ⟨possible, admitted⟩ | hsame
  · cases x with
    | select choose => exact (chooses_or_givesUp possible admitted).imp_left And.left
    | begin config now id payload r => cases built.symm.trans admitted
    | resume now id r => cases built.symm.trans admitted
    | drop id r => cases built.symm.trans admitted
  · rw [hsame] at left
    exact absurd built left

/-- What ends the selections has ended them for good. -/
theorem isPast_of_occurred (hc : c.state = .built) {event : Handling → Action ω → Prop}
    (ends : ∀ h x, Staged h → event h x → (h.act x).IsPast) (occurred : Occurred event c actions) :
    (run c actions).IsPast := by
  obtain ⟨before, x, after, rfl, hevent⟩ := occurred
  have hpast : (run c (before ++ [x])).IsPast := by
    rw [run_concat]
    exact ends _ x (run_staged hc before) hevent
  have hlater := isPast_run hc hpast after
  rwa [List.append_assoc, List.singleton_append] at hlater

/-- A context is closed by a selection that has failed or a dispatch that has started, and by nothing
else. -/
theorem isPast_iff (hc : c.state = .built) :
    (run c actions).IsPast ↔ Occurred GivesUp c actions ∨ Occurred Starts c actions := by
  constructor
  · intro past
    have hfirst : ¬ (start c).IsPast := fun past => past.1 hc
    obtain ⟨before, x, after, rfl, hopen, hpast⟩ := occurred_change hfirst past
    rcases (run_staged hc before).closes hopen hpast with givesUp | starts
    · exact .inl ⟨before, x, after, rfl, givesUp⟩
    · exact .inr ⟨before, x, after, rfl, starts⟩
  · rintro (givenUp | started)
    · exact isPast_of_occurred hc (fun h x h₀ => h₀.isPast_of_givesUp) givenUp
    · exact isPast_of_occurred hc (fun h x h₀ => h₀.isPast_of_starts) started

theorem built_of_untouched (hc : c.state = .built) (unchosen : ¬ Occurred Chooses c actions)
    (kept : ¬ Occurred GivesUp c actions) : (run c actions).context.state = .built := by
  refine Classical.byContradiction fun left => ?_
  obtain ⟨before, x, after, rfl, hbuilt, hleft⟩ :=
    occurred_change (p := fun h => h.context.state ≠ .built) (fun hne => hne hc) left
  rcases (run_staged hc before).leaves (Classical.not_not.1 hbuilt) hleft with chooses | givesUp
  · exact unchosen ⟨before, x, after, rfl, chooses⟩
  · exact kept ⟨before, x, after, rfl, givesUp⟩

/-! ## What the calls are told -/

/-- Every action leaves the service of a context. -/
theorem act_service (h : Handling) (x : Action ω) : (h.act x).context.service = h.context.service := by
  by_cases possible : h.Possible x
  · cases x with
    | select choose =>
      rw [act_select possible]
      by_cases hopen : h.context.state = .built ∨ h.context.state = .selected
      · rcases RequestContext.selectEndpoint_of_open hopen choose with
          ⟨e, -, hcontext⟩ | ⟨e, kind, -, hcontext⟩
        · rw [hcontext]
        · rw [hcontext]
          rfl
      · rw [RequestContext.selectEndpoint_of_not_open hopen]
    | begin config now id payload r =>
      rw [act_begin possible]
      dsimp only [after]
      unfold Dispatch.begin
      cases h.context.dispatchable with
      | error e => rfl
      | ok endpoint => exact Dispatch.advance_service
    | resume now id r =>
      obtain ⟨d, hd⟩ := Option.isSome_iff_exists.1 possible
      rw [act_resume hd]
      exact Dispatch.advance_service
    | drop id r =>
      obtain ⟨d, hd⟩ := Option.isSome_iff_exists.1 possible
      rw [act_drop hd]
  · rw [act_of_not_possible possible]

theorem run_service (c : RequestContext) (actions : List (Action ω)) :
    (run c actions).context.service = c.service :=
  List.foldlRecOn (motive := fun h : Handling => h.context.service = c.service) actions act rfl
    fun h hservice x _ => (act_service h x).trans hservice

/-- Only a call on a context that is closed is told that it was dispatched. -/
theorem Staged.told (h₀ : Staged h) (possible : h.Possible x) {service : ServiceId}
    (hanswer : h.answer? x = some (.error (.alreadyDispatched service))) :
    x.IsCall ∧ h.IsPast ∧ service = h.context.service := by
  cases x with
  | select choose =>
    by_cases hopen : h.context.state = .built ∨ h.context.state = .selected
    · have htold := RequestContext.selectEndpoint_told hopen choose service
      dsimp only [answer?] at hanswer
      generalize (h.context.selectEndpoint choose).2 = result at hanswer htold
      cases result with
      | ok e => cases hanswer
      | error e =>
        cases hanswer
        exact absurd rfl htold
    · dsimp only [answer?] at hanswer
      rw [RequestContext.selectEndpoint_of_not_open hopen] at hanswer
      cases hanswer
      exact ⟨trivial, not_or.1 hopen, rfl⟩
  | begin config now id payload r =>
    dsimp only [answer?] at hanswer
    by_cases hselected : h.context.state = .selected
    · obtain ⟨e, he⟩ := h₀.selected hselected
      cases Dispatch.begin_ofAttempt (RequestContext.dispatchable_of_selected hselected he) hanswer
    unfold Dispatch.begin at hanswer
    by_cases hbuilt : h.context.state = .built
    · rw [RequestContext.dispatchable_of_built hbuilt] at hanswer
      cases hanswer
    · rw [RequestContext.dispatchable_of_past ⟨hbuilt, hselected⟩] at hanswer
      cases hanswer
      exact ⟨trivial, ⟨hbuilt, hselected⟩, rfl⟩
  | resume now id r =>
    obtain ⟨d, hd⟩ := Option.isSome_iff_exists.1 possible
    dsimp only [answer?] at hanswer
    rw [hd] at hanswer
    cases Dispatch.advance_ofAttempt (fun _ => Attempt.resume_ofAttempt) hanswer
  | drop id r => cases hanswer

theorem answer?_of_isPast (past : h.IsPast) (call : x.IsCall) :
    h.answer? x = some (.error (.alreadyDispatched h.context.service)) := by
  cases x with
  | select choose =>
    dsimp only [answer?]
    rw [RequestContext.selectEndpoint_of_not_open (not_or.2 past)]
    rfl
  | begin config now id payload r =>
    dsimp only [answer?]
    unfold Dispatch.begin
    rw [RequestContext.dispatchable_of_past past]
    rfl
  | resume now id r => exact call.elim
  | drop id r => exact call.elim

/-- After any calls on a context, when the next is told that it was dispatched. -/
structure Closing (c : RequestContext) (actions : List (Action ω)) : Prop where
  /-- Whatever is told so is a call after a selection that failed or a dispatch that started. -/
  told : ∀ (x : Action ω) service, (run c actions).Possible x →
    (run c actions).answer? x = some (.error (.alreadyDispatched service)) →
      x.IsCall ∧ service = c.service ∧ (Occurred GivesUp c actions ∨ Occurred Starts c actions)
  /-- Every such call is told so. -/
  late : ∀ x : Action ω, x.IsCall → Occurred GivesUp c actions ∨ Occurred Starts c actions →
    (run c actions).answer? x = some (.error (.alreadyDispatched c.service))
  /-- A dispatch before any selection is told that none was made. -/
  early : ∀ config now id payload r,
    ¬ Occurred Chooses c actions → ¬ Occurred GivesUp c actions →
      (run c actions).answer? (.begin config now id payload r : Action ω) =
        some (.error (.noEndpointSelected c.service))

/-- Failed selections close a context as dispatches do, and nothing else does. -/
theorem run_closing (requestId : Uuid) (service : ServiceId) (endpoints fallbacks : EndpointMap)
    (inRollover : Bool) (actions : List (Action ω)) :
    Closing (.new requestId service endpoints fallbacks inRollover) actions := by
  generalize hc : RequestContext.new requestId service endpoints fallbacks inRollover = c
  have hbuilt : c.state = .built := hc ▸ rfl
  constructor
  · intro x service' possible hanswer
    obtain ⟨call, past, hservice⟩ := (run_staged hbuilt actions).told possible hanswer
    exact ⟨call, hservice.trans (run_service c actions), (isPast_iff hbuilt).1 past⟩
  · intro x call hclosed
    rw [answer?_of_isPast ((isPast_iff hbuilt).2 hclosed) call, run_service]
  · intro config now id payload r unchosen kept
    dsimp only [answer?]
    unfold Dispatch.begin
    rw [RequestContext.dispatchable_of_built (built_of_untouched hbuilt unchosen kept), run_service]
    rfl

section Example

def givingUp : Action Script := .select fun _ => .error "none wanted"

theorem answer_givingUp :
    (start stagedContext).answer? givingUp = some (.error (.selectionFailed "eth" "none wanted")) := by
  decide +kernel

/-- A dispatch before the selection and one after it. -/
theorem closing_of_givingUp :
    (run stagedContext ([] : List (Action Script))).answer? beginStaged =
        some (.error (.noEndpointSelected "eth")) ∧
      (run stagedContext [givingUp]).answer? beginStaged =
        some (.error (.alreadyDispatched "eth")) := by
  have closing (actions : List (Action Script)) : Closing stagedContext actions :=
    run_closing default "eth" (.ofEndpoints [.ofSession "node" "https://node" none stagedSession]) ∅
      false actions
  have nothing (event : Handling → Action Script → Prop) :
      ¬ Occurred event stagedContext ([] : List (Action Script)) := by
    rintro ⟨before, x, after, heq, -⟩
    cases List.append_eq_nil_iff.1 heq.symm |>.2
  have givesUp : Occurred GivesUp stagedContext [givingUp] :=
    occurred_singleton.2 ⟨rfl, ⟨_, rfl⟩, .inl rfl, _, answer_givingUp⟩
  constructor
  · exact (closing []).early default 0 7 _ stagedRelays (nothing _) (nothing _)
  · exact (closing [givingUp]).late beginStaged trivial (.inl givesUp)

end Example

/-- What the answers say is so: a context that is said to be dispatched has had a dispatch that started,
and a dispatch that no successful selection came before is told that there was none. -/
structure Truthful (c : RequestContext) (actions : List (Action ω)) : Prop where
  dispatched : ∀ (x : Action ω) service, (run c actions).Possible x →
    (run c actions).answer? x = some (.error (.alreadyDispatched service)) →
      Occurred Starts c actions
  unselected : ∀ config now id payload r,
    (run c actions).Possible (.begin config now id payload r : Action ω) →
      ¬ Occurred Chooses c actions →
        (run c actions).answer? (.begin config now id payload r : Action ω) =
          some (.error (.noEndpointSelected c.service))

section Example

/-- Nothing was selected and nothing dispatched, and yet the next dispatch is told that the context was
dispatched. -/
theorem told_after_givingUp :
    ¬ Occurred Chooses stagedContext [givingUp] ∧ ¬ Occurred Starts stagedContext [givingUp] ∧
      (run stagedContext [givingUp]).answer? beginStaged = some (.error (.alreadyDispatched "eth")) ∧
      ¬ Truthful stagedContext [givingUp] := by
  have unchosen : ¬ Occurred Chooses stagedContext [givingUp] := by
    rw [occurred_singleton]
    rintro ⟨-, -, hanswer⟩
    cases answer_givingUp.symm.trans hanswer
  have unstarted : ¬ Occurred Starts stagedContext [givingUp] := by
    rw [occurred_singleton]
    rintro ⟨hstate, -⟩
    cases hstate
  have told : (run stagedContext [givingUp]).answer? beginStaged =
      some (.error (.alreadyDispatched "eth")) := by decide +kernel
  refine ⟨unchosen, unstarted, told, fun truthful => unstarted ?_⟩
  exact truthful.dispatched beginStaged "eth" rfl told

end Example

end Handling
end RelayGateway
