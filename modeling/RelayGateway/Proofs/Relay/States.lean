import Mathlib.Data.List.Induction
import RelayGateway.Proofs.Relay.Handling
import RelayGateway.Script

/-! # The states of a context

A context is built, has an endpoint selected, is dispatched, and is completed or fails. Whatever is
called on it, in whatever order, it takes no other way; a call that comes too early or too late is turned
away and leaves no trace; and only the one dispatch that begins with a selection has any effect outside.
-/
namespace RelayGateway
variable {ω : Type}

inductive ContextState.Finishes : Option (Except RelayError Unit) → ContextState → Prop
  | waits : Finishes none .dispatched
  | completes : Finishes (some (.ok ())) .completed
  | fails (e : RelayError) : Finishes (some (.error e)) (.failed e.kind)

def DispatchProgress.result? : DispatchProgress → Option (Except RelayError Unit)
  | .waiting _ => none
  | .done result => some (result.map fun _ => ())

theorem DispatchProgress.running?_isSome_iff {p : DispatchProgress} :
    p.running?.isSome = true ↔ p.result? = none := by
  cases p <;> simp [running?, result?]

/-! ## Dispatches -/

namespace Dispatch
variable {now deadline : Nat} {id : ProcessId} {payload : RelayPayload} {a : Attempt}
variable {retry : Option Endpoint} {c : RequestContext}

theorem finishes_conclude (c : RequestContext) (result : Except RelayError RelayResponse) :
    ContextState.Finishes (DispatchProgress.done result).result? (conclude c result).state := by
  cases result with
  | ok response => exact .completes
  | error e => exact .fails e

theorem afterLast_finishes {s : Relays ω × AttemptProgress} (hc : c.state = .dispatched) :
    ContextState.Finishes (afterLast now payload deadline a c s).2.2.result?
      (afterLast now payload deadline a c s).1.state := by
  obtain ⟨r, progress⟩ := s
  cases progress with
  | waiting stage => exact hc ▸ .waits
  | done result => exact finishes_conclude _ result

variable [Collaborators ω] {s : Relays ω × AttemptProgress}

theorem advance_finishes (hc : c.state = .dispatched) :
    ContextState.Finishes (advance now id payload deadline a retry c s).2.2.result?
      (advance now id payload deadline a retry c s).1.state := by
  cases retry with
  | none => exact afterLast_finishes hc
  | some fallback =>
    obtain ⟨r, progress⟩ := s
    cases progress with
    | waiting stage => exact hc ▸ .waits
    | done result =>
      cases result with
      | ok response => exact finishes_conclude _ (.ok response)
      | error e => exact afterLast_finishes hc

end Dispatch

namespace RequestContext
variable {c : RequestContext}

theorem selectEndpoint_of_open (h : c.state = .built ∨ c.state = .selected)
    (choose : List EndpointAddr → Except String EndpointAddr) :
    (∃ e, (c.selectEndpoint choose).2 = .ok e ∧
      (c.selectEndpoint choose).1 = { c with state := .selected, selected := some e }) ∨
    ∃ e kind, (c.selectEndpoint choose).2 = .error e ∧
      (c.selectEndpoint choose).1 = c.failRequest kind e := by
  unfold selectEndpoint
  rw [if_pos h]
  split
  · exact .inr ⟨_, _, rfl, rfl⟩
  · cases choose c.candidates with
    | error reason => exact .inr ⟨_, _, rfl, rfl⟩
    | ok addr =>
      dsimp only
      cases c.endpoints.find? addr with
      | none => exact .inr ⟨_, _, rfl, rfl⟩
      | some endpoint => exact .inl ⟨endpoint, rfl, rfl⟩

theorem selectEndpoint_of_not_open (h : ¬ (c.state = .built ∨ c.state = .selected))
    (choose : List EndpointAddr → Except String EndpointAddr) :
    c.selectEndpoint choose = (c, .error (.alreadyDispatched c.service)) := by
  unfold selectEndpoint
  rw [if_neg h]

theorem dispatchable_of_selected {e : Endpoint} (hstate : c.state = .selected)
    (hselected : c.selected = some e) : c.dispatchable = .ok e := by
  unfold dispatchable
  rw [if_pos hstate, hselected]

theorem dispatchable_of_not_selected (hstate : c.state ≠ .selected) :
    ∃ e, c.dispatchable = .error e := by
  unfold dispatchable
  rw [if_neg hstate]
  split <;> exact ⟨_, rfl⟩

end RequestContext

/-! ## Actions -/

namespace Handling
variable [Collaborators ω] {h : Handling} {x : Action ω} {c : RequestContext}

/-- What an action gives back to its caller: nothing while a dispatch waits, or when it is dropped. -/
def answer? (h : Handling) : Action ω → Option (Except RelayError Unit)
  | .select choose => some ((h.context.selectEndpoint choose).2.map fun _ => ())
  | .begin config now id payload r => (Dispatch.begin config now id payload h.context r).2.2.result?
  | .resume now id r => h.running.bind fun d => (d.resume now id h.context r).2.2.result?
  | .drop _ _ => none

/-- What the relays share before and after an action: the limiter, the signature cache, the signer, the
transport and the chain. No selection has to do with it. -/
def shared? (h : Handling) : Action ω → Option (Relays (Recorder ω) × Relays (Recorder ω))
  | .select _ => none
  | .begin config now id payload r =>
    some (r, (Dispatch.begin config now id payload h.context r).2.1)
  | .resume now id r => h.running.map fun d => (r, (d.resume now id h.context r).2.1)
  | .drop id r => h.running.map fun d => (r, d.drop id r)

def Touches (h : Handling) (x : Action ω) : Prop := ∃ r r', h.shared? x = some (r, r') ∧ r' ≠ r

def Starts (h : Handling) (x : Action ω) : Prop :=
  h.context.state = .selected ∧ ∃ config now id payload r, x = .begin config now id payload r

/-- A dispatch has its context to itself: nothing else is called while it runs. -/
def Possible (h : Handling) : Action ω → Prop
  | .select _ => h.running = none
  | .begin .. => h.running = none
  | .resume .. => h.running.isSome = true
  | .drop .. => h.running.isSome = true

def Admits : ContextState → Action ω → Prop
  | s, .select _ => s = .built ∨ s = .selected
  | s, .begin .. => s = .selected
  | s, .resume .. => s = .dispatched
  | s, .drop .. => s = .dispatched

/-- From a state, by an action that gives back an answer, to a state. A dispatch goes from selected over
dispatched to its end, also when it ends in its first turn. -/
inductive Transition : ContextState → Action ω → Option (Except RelayError Unit) → ContextState → Prop
  | select {s : ContextState} {choose : List EndpointAddr → Except String EndpointAddr}
      (early : s = .built ∨ s = .selected) : Transition s (.select choose) (some (.ok ())) .selected
  | refuse {s : ContextState} {choose : List EndpointAddr → Except String EndpointAddr}
      (early : s = .built ∨ s = .selected) (e : RelayError) :
      Transition s (.select choose) (some (.error e)) (.failed .internal)
  | begin {config : RelayConfig} {now : Nat} {id : ProcessId} {payload : RelayPayload}
      {r : Relays (Recorder ω)} {answer : Option (Except RelayError Unit)} {s : ContextState}
      (finishes : s.Finishes answer) :
      Transition .selected (.begin config now id payload r) answer s
  | resume {now : Nat} {id : ProcessId} {r : Relays (Recorder ω)}
      {answer : Option (Except RelayError Unit)} {s : ContextState} (finishes : s.Finishes answer) :
      Transition .dispatched (.resume now id r) answer s
  | drop {id : ProcessId} {r : Relays (Recorder ω)} :
      Transition .dispatched (.drop id r) none .dispatched

/-! ## One action -/

structure Staged (h : Handling) : Prop where
  running : h.running.isSome = true → h.context.state = .dispatched
  selected : h.context.state = .selected → ∃ e, h.context.selected = some e

theorem act_select (hrunning : h.running = none)
    (choose : List EndpointAddr → Except String EndpointAddr) :
    h.act (.select choose : Action ω) = { h with context := (h.context.selectEndpoint choose).1 } := by
  unfold act
  dsimp only
  rw [hrunning]
  rfl

theorem act_drop {d : Dispatch} (hrunning : h.running = some d) (id : ProcessId)
    (r : Relays (Recorder ω)) :
    h.act (.drop id r) = { h with running := none, posted := h.posted ++ r.posted (d.drop id r) } := by
  unfold act
  dsimp only
  rw [hrunning]

theorem act_of_not_possible (hx : ¬ h.Possible x) : h.act x = h := by
  cases x with
  | select choose => exact if_pos (Option.isSome_iff_ne_none.2 hx)
  | begin config now id payload r => exact if_pos (Option.isSome_iff_ne_none.2 hx)
  | resume now id r =>
    have hrunning : h.running = none := Option.not_isSome_iff_eq_none.1 hx
    unfold act
    dsimp only
    rw [hrunning]
  | drop id r =>
    have hrunning : h.running = none := Option.not_isSome_iff_eq_none.1 hx
    unfold act
    dsimp only
    rw [hrunning]

theorem Staged.begin_eq (h₀ : Staged h) (hstate : h.context.state = .selected) (config : RelayConfig)
    (now : Nat) (id : ProcessId) (payload : RelayPayload) (r : Relays (Recorder ω)) :
    ∃ deadline a retry s, Dispatch.begin config now id payload h.context r =
      Dispatch.advance now id payload deadline a retry { h.context with state := .dispatched } s := by
  obtain ⟨e, hselected⟩ := h₀.selected hstate
  unfold Dispatch.begin
  rw [RequestContext.dispatchable_of_selected hstate hselected]
  exact ⟨_, _, _, _, rfl⟩

theorem begin_of_not_selected (hstate : h.context.state ≠ .selected) (config : RelayConfig)
    (now : Nat) (id : ProcessId) (payload : RelayPayload) (r : Relays (Recorder ω)) :
    ∃ e, Dispatch.begin config now id payload h.context r = (h.context, r, .done (.error e)) ∧
      beginContacts config now id payload h.context r = [] := by
  obtain ⟨e, he⟩ := RequestContext.dispatchable_of_not_selected hstate
  unfold Dispatch.begin beginContacts
  rw [he]
  exact ⟨e, rfl, rfl⟩

/-- An action that is admitted is a transition. -/
theorem Staged.transition (h₀ : Staged h) (possible : h.Possible x)
    (admitted : Admits h.context.state x) :
    Transition h.context.state x (h.answer? x) (h.act x).context.state := by
  cases x with
  | select choose =>
    rw [act_select possible]
    dsimp only [answer?]
    rcases RequestContext.selectEndpoint_of_open admitted choose with
      ⟨e, hanswer, hcontext⟩ | ⟨e, kind, hanswer, hcontext⟩
    · rw [hanswer, hcontext]
      exact .select admitted
    · rw [hanswer, hcontext]
      exact .refuse admitted e
  | begin config now id payload r =>
    obtain ⟨deadline, a, retry, s, hbegin⟩ := h₀.begin_eq admitted config now id payload r
    have hstate : h.context.state = .selected := admitted
    rw [act_begin possible, hstate]
    dsimp only [answer?, after]
    rw [hbegin]
    exact .begin (Dispatch.advance_finishes rfl)
  | resume now id r =>
    obtain ⟨d, hd⟩ := Option.isSome_iff_exists.1 possible
    have hstate : h.context.state = .dispatched := admitted
    rw [act_resume hd]
    dsimp only [answer?, after]
    rw [hd, hstate]
    exact .resume (Dispatch.advance_finishes hstate)
  | drop id r =>
    obtain ⟨d, hd⟩ := Option.isSome_iff_exists.1 possible
    have hstate : h.context.state = .dispatched := admitted
    rw [act_drop hd, hstate]
    exact .drop

/-- A call that is not admitted gives back an error, and changes nothing inside or outside. -/
theorem Staged.turned_away (h₀ : Staged h) (possible : h.Possible x)
    (closed : ¬ Admits h.context.state x) :
    (∃ e, h.answer? x = some (.error e)) ∧ h.act x = h ∧ ¬ h.Touches x := by
  cases x with
  | select choose =>
    have hselect := RequestContext.selectEndpoint_of_not_open closed choose
    refine ⟨⟨.alreadyDispatched h.context.service, ?_⟩, ?_, ?_⟩
    · dsimp only [answer?]
      rw [hselect]
      rfl
    · rw [act_select possible, hselect]
    · rintro ⟨r, r', hshared, -⟩
      cases hshared
  | begin config now id payload r =>
    obtain ⟨e, hbegin, hcontacts⟩ := begin_of_not_selected closed config now id payload r
    refine ⟨⟨e, ?_⟩, ?_, ?_⟩
    · dsimp only [answer?]
      rw [hbegin]
      rfl
    · rw [act_begin possible, hbegin, hcontacts]
      unfold after
      rw [Relays.posted_of_eq rfl, List.append_nil, List.append_nil]
      obtain ⟨context, running, contacts, posted⟩ := h
      cases possible
      rfl
    · rintro ⟨r₁, r₂, hshared, hne⟩
      dsimp only [shared?] at hshared
      rw [hbegin] at hshared
      cases hshared
      exact hne rfl
  | resume now id r => exact absurd (h₀.running possible) closed
  | drop id r => exact absurd (h₀.running possible) closed

theorem Staged.start (c : RequestContext) (hc : c.state = .built) : Staged (start c) where
  running := nofun
  selected hstate := by
    have hbuilt : c.state = .selected := hstate
    rw [hc] at hbuilt
    cases hbuilt

omit [Collaborators ω] in
/-- A dispatch that runs after a turn has left its context dispatched, and none has left it selected. -/
theorem Staged.of_finishes {r : Relays (Recorder ω)} {contacts : List Contact}
    {t : RequestContext × Relays (Recorder ω) × DispatchProgress}
    (finishes : t.1.state.Finishes t.2.2.result?) : Staged (h.after r contacts t) where
  running hrunning := by
    have hwaits := DispatchProgress.running?_isSome_iff.1 hrunning
    rw [hwaits] at finishes
    generalize hstate : t.1.state = s at finishes
    cases finishes
    exact hstate
  selected hstate := by
    have hselected : t.1.state = .selected := hstate
    rw [hselected] at finishes
    generalize t.2.2.result? = answer at finishes
    cases finishes

theorem Staged.act (h₀ : Staged h) (x : Action ω) : Staged (h.act x) := by
  by_cases possible : h.Possible x
  · by_cases admitted : Admits h.context.state x
    · cases x with
      | select choose =>
        have hrunning : h.running = none := possible
        rw [act_select possible]
        rcases RequestContext.selectEndpoint_of_open admitted choose with
          ⟨e, -, hcontext⟩ | ⟨e, kind, -, hcontext⟩
        · rw [hcontext]
          exact ⟨fun hsome => absurd hsome (Option.not_isSome_iff_eq_none.2 hrunning), fun _ => ⟨e, rfl⟩⟩
        · rw [hcontext]
          exact ⟨fun hsome => absurd hsome (Option.not_isSome_iff_eq_none.2 hrunning), nofun⟩
      | begin config now id payload r =>
        obtain ⟨deadline, a, retry, s, hbegin⟩ := h₀.begin_eq admitted config now id payload r
        rw [act_begin possible, hbegin]
        exact .of_finishes (Dispatch.advance_finishes rfl)
      | resume now id r =>
        obtain ⟨d, hd⟩ := Option.isSome_iff_exists.1 possible
        rw [act_resume hd]
        exact .of_finishes (Dispatch.advance_finishes admitted)
      | drop id r =>
        obtain ⟨d, hd⟩ := Option.isSome_iff_exists.1 possible
        have hstate : h.context.state = .dispatched := admitted
        rw [act_drop hd]
        refine ⟨nofun, fun hselected => ?_⟩
        cases hstate.symm.trans hselected
    · rw [(h₀.turned_away possible admitted).2.1]
      exact h₀
  · rw [act_of_not_possible possible]
    exact h₀

theorem Staged.act_cases (h₀ : Staged h) (x : Action ω) :
    (h.Possible x ∧ Admits h.context.state x) ∨ h.act x = h := by
  by_cases possible : h.Possible x
  · by_cases admitted : Admits h.context.state x
    · exact .inl ⟨possible, admitted⟩
    · exact .inr (h₀.turned_away possible admitted).2.1
  · exact .inr (act_of_not_possible possible)

def IsPast (h : Handling) : Prop := h.context.state ≠ .built ∧ h.context.state ≠ .selected

theorem Staged.isPast_act (h₀ : Staged h) (past : h.IsPast) (x : Action ω) : (h.act x).IsPast := by
  rcases h₀.act_cases x with ⟨possible, admitted⟩ | hsame
  · have htransition := h₀.transition possible admitted
    unfold IsPast at past ⊢
    generalize (h.act x).context.state = s at htransition ⊢
    generalize h.answer? x = answer at htransition
    generalize h.context.state = s₀ at htransition past
    cases htransition with
    | select early => exact absurd early (not_or.2 past)
    | refuse early e => exact ⟨nofun, nofun⟩
    | begin finishes => cases finishes <;> exact ⟨nofun, nofun⟩
    | resume finishes => cases finishes <;> exact ⟨nofun, nofun⟩
    | drop => exact ⟨nofun, nofun⟩
  · rw [hsame]
    exact past

omit [Collaborators ω] in
theorem Staged.possible_of_starts (h₀ : Staged h) (starts : h.Starts x) : h.Possible x := by
  obtain ⟨hstate, config, now, id, payload, r, rfl⟩ := starts
  refine Option.not_isSome_iff_eq_none.1 fun hrunning => ?_
  cases (h₀.running hrunning).symm.trans hstate

theorem Staged.isPast_of_starts (h₀ : Staged h) (starts : h.Starts x) : (h.act x).IsPast := by
  have possible := h₀.possible_of_starts starts
  obtain ⟨hstate, config, now, id, payload, r, rfl⟩ := starts
  have htransition := h₀.transition possible hstate
  unfold IsPast
  generalize (h.act (.begin config now id payload r)).context.state = s at htransition ⊢
  generalize h.answer? (.begin config now id payload r) = answer at htransition
  rw [hstate] at htransition
  cases htransition with
  | begin finishes => cases finishes <;> exact ⟨nofun, nofun⟩

/-- Nothing more happens to a context that has come to its end. -/
theorem Staged.act_of_terminal (h₀ : Staged h) (terminal : h.context.state.isTerminal = true)
    (x : Action ω) : h.act x = h := by
  refine (h₀.act_cases x).resolve_left ?_
  rintro ⟨-, admitted⟩
  cases x with
  | select choose => rcases admitted with heq | heq <;> rw [heq] at terminal <;> cases terminal
  | begin config now id payload r =>
    rw [show h.context.state = .selected from admitted] at terminal
    cases terminal
  | resume now id r =>
    rw [show h.context.state = .dispatched from admitted] at terminal
    cases terminal
  | drop id r =>
    rw [show h.context.state = .dispatched from admitted] at terminal
    cases terminal

theorem Staged.starts_of_running (h₀ : Staged h) (hrunning : h.running = none)
    (hafter : (h.act x).running.isSome = true) : h.Starts x := by
  rcases h₀.act_cases x with ⟨possible, admitted⟩ | hsame
  · cases x with
    | select choose =>
      rw [act_select possible] at hafter
      exact absurd hafter (Option.not_isSome_iff_eq_none.2 hrunning)
    | begin config now id payload r => exact ⟨admitted, config, now, id, payload, r, rfl⟩
    | resume now id r => exact absurd possible (Option.not_isSome_iff_eq_none.2 hrunning)
    | drop id r => exact absurd possible (Option.not_isSome_iff_eq_none.2 hrunning)
  · rw [hsame, hrunning] at hafter
    cases hafter

theorem Staged.starts_of_touches (h₀ : Staged h) (possible : h.Possible x) (touches : h.Touches x) :
    h.Starts x ∨ h.running.isSome = true := by
  cases x with
  | select choose =>
    obtain ⟨r, r', hshared, -⟩ := touches
    cases hshared
  | begin config now id payload r =>
    by_cases hstate : h.context.state = .selected
    · exact .inl ⟨hstate, config, now, id, payload, r, rfl⟩
    · exact absurd touches (h₀.turned_away possible hstate).2.2
  | resume now id r => exact .inr possible
  | drop id r => exact .inr possible

/-! ## Whole runs -/

theorem run_concat (c : RequestContext) (actions : List (Action ω)) (x : Action ω) :
    run c (actions ++ [x]) = (run c actions).act x := by
  unfold run
  rw [List.foldl_append, List.foldl_cons, List.foldl_nil]

theorem run_staged (hc : c.state = .built) (actions : List (Action ω)) : Staged (run c actions) :=
  List.foldlRecOn actions act (.start c hc) fun _ h₀ x _ => h₀.act x

theorem started_of_running (hc : c.state = .built) (actions : List (Action ω))
    (hrunning : (run c actions).running.isSome = true) :
    ∃ before x between, actions = before ++ x :: between ∧ (run c before).Starts x := by
  induction actions using List.reverseRecOn with
  | nil => cases hrunning
  | append_singleton actions x ih =>
    rw [run_concat] at hrunning
    cases hbefore : (run c actions).running with
    | some d =>
      obtain ⟨before, y, between, rfl, starts⟩ := ih (by rw [hbefore]; rfl)
      exact ⟨before, y, between ++ [x], by simp, starts⟩
    | none => exact ⟨actions, x, [], rfl, (run_staged hc actions).starts_of_running hbefore hrunning⟩

theorem isPast_run (hc : c.state = .built) {actions : List (Action ω)} (past : (run c actions).IsPast)
    (more : List (Action ω)) : (run c (actions ++ more)).IsPast := by
  induction more using List.reverseRecOn with
  | nil => rwa [List.append_nil]
  | append_singleton more x ih =>
    rw [← List.append_assoc, run_concat]
    exact (run_staged hc _).isPast_act ih x

/-- What can be said of a context and the calls made on it, one after the other. -/
structure Regular (c : RequestContext) (actions : List (Action ω)) : Prop where
  /-- What is admitted next is one of the transitions. -/
  transition : ∀ x, (run c actions).Possible x → Admits (run c actions).context.state x →
    Transition (run c actions).context.state x ((run c actions).answer? x)
      (run c (actions ++ [x])).context.state
  /-- What is not admitted fails, and changes nothing inside or outside. -/
  turned_away : ∀ x, (run c actions).Possible x → ¬ Admits (run c actions).context.state x →
    (∃ e, (run c actions).answer? x = some (.error e)) ∧
      run c (actions ++ [x]) = run c actions ∧ ¬ (run c actions).Touches x
  /-- A context that is completed or has failed stays as it is. -/
  final : (run c actions).context.state.isTerminal = true →
    ∀ more, run c (actions ++ more) = run c actions
  /-- The selected endpoint is one of the candidates. -/
  candidate : ∀ e, (run c actions).context.selected = some e → ∃ addr, c.endpoints.find? addr = some e
  /-- Whatever has an effect outside belongs to a dispatch that has started with a selection. -/
  effect : ∀ x, (run c actions).Possible x → (run c actions).Touches x →
    ∃ before y between, actions ++ [x] = before ++ y :: between ∧ (run c before).Starts y
  /-- No dispatch starts after another. -/
  once : ∀ before x between y after, actions = before ++ x :: (between ++ y :: after) →
    (run c before).Starts x → ¬ (run c (before ++ x :: between)).Starts y

/-- Whatever a context is built over and whatever is called on it, it is regular. -/
theorem run_regular (requestId : Uuid) (service : ServiceId) (endpoints fallbacks : EndpointMap)
    (inRollover : Bool) (actions : List (Action ω)) :
    Regular (RequestContext.new requestId service endpoints fallbacks inRollover) actions := by
  generalize hc : RequestContext.new requestId service endpoints fallbacks inRollover = c
  have hbuilt : c.state = .built := hc ▸ rfl
  have hselected : c.selected = none := hc ▸ rfl
  have hstaged := run_staged hbuilt actions
  constructor
  · intro x possible admitted
    rw [run_concat]
    exact hstaged.transition possible admitted
  · intro x possible closed
    rw [run_concat]
    exact hstaged.turned_away possible closed
  · intro terminal more
    induction more using List.reverseRecOn with
    | nil => rw [List.append_nil]
    | append_singleton more x ih =>
      rw [← List.append_assoc, run_concat, ih]
      exact hstaged.act_of_terminal terminal x
  · exact (run_bound hselected actions).selected
  · intro x possible touches
    rcases hstaged.starts_of_touches possible touches with starts | hrunning
    · exact ⟨actions, x, [], rfl, starts⟩
    · obtain ⟨before, y, between, rfl, starts⟩ := started_of_running hbuilt actions hrunning
      exact ⟨before, y, between ++ [x], by simp, starts⟩
  -- A dispatch that starts leaves the selections behind, for good.
  · rintro before x between y after - starts ⟨hstate, -⟩
    have hpast : (run c (before ++ [x])).IsPast := by
      rw [run_concat]
      exact (run_staged hbuilt before).isPast_of_starts starts
    have hlater := isPast_run hbuilt hpast between
    rw [List.append_assoc, List.singleton_append] at hlater
    exact hlater.2 hstate

section Example

def stagedSession : Session := ⟨⟨"session", "eth", "app", 1, 5⟩, some ⟨"app", "", ["eth"]⟩, []⟩

def stagedContext : RequestContext :=
  .new default "eth" (.ofEndpoints [.ofSession "node" "https://node" none stagedSession]) ∅ false

def slowScript : Script := { (default : Script) with signer := ⟨10, none, default⟩ }

def stagedRelays : Relays (Recorder Script) := ⟨.new 1, .new default, ⟨slowScript, []⟩, []⟩

def beginStaged : Action Script :=
  .begin default 0 7 ⟨[], "", .jsonRpc, none⟩ stagedRelays

def droppedActions : List (Action Script) :=
  [.select fun addrs => .ok (addrs.headD default), beginStaged, .drop 7 stagedRelays]

/-- The first dispatch reaches the signer. After it was dropped another one is turned away. -/
theorem regular_after_drop :
    (run stagedContext (droppedActions.take 2)).running.isSome = true ∧
      (run stagedContext droppedActions).Possible beginStaged ∧
      (run stagedContext droppedActions).context.state = .dispatched ∧
      (run stagedContext (droppedActions ++ [beginStaged])) = run stagedContext droppedActions ∧
      ¬ (run stagedContext droppedActions).Touches beginStaged := by
  have hstate : (run stagedContext droppedActions).context.state = .dispatched := by decide +kernel
  have possible : (run stagedContext droppedActions).Possible beginStaged := by
    refine Option.not_isSome_iff_eq_none.1 ?_
    decide +kernel
  have hregular : Regular stagedContext droppedActions :=
    run_regular default "eth" (.ofEndpoints [.ofSession "node" "https://node" none stagedSession]) ∅
      false droppedActions
  have hclosed : ¬ Admits (run stagedContext droppedActions).context.state beginStaged := by
    rw [hstate]
    nofun
  obtain ⟨-, hsame, hquiet⟩ := hregular.turned_away beginStaged possible hclosed
  exact ⟨by decide +kernel, possible, hstate, hsame, hquiet⟩

end Example

end Handling
end RelayGateway
