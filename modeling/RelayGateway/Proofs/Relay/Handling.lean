import RelayGateway.Gateway
import RelayGateway.Proofs.Relay.Recorder

/-! # What becomes of a context

Endpoints are selected for a context, a dispatch begins, goes on, may be dropped. Whatever is posted on
the way is a contact of the endpoint whose attempt posts it. Every contact is permitted by what the
context was built over: its endpoint is one of the candidates, or in rollover the fallback with the
least address, after an attempt at a protocol endpoint has failed.

The posts are read off a recorder. By `Dispatch.begin_plain`, `Dispatch.resume_plain` and
`Dispatch.drop_plain` the contexts and the dispatches are those that there are without it.
-/
namespace RelayGateway

def RequestContext.offer (c : RequestContext) : Gateway.Offer :=
  ⟨c.endpoints, c.fallbacks, c.inRollover⟩

def RequestContext.observed (c : RequestContext) : List EndpointObservation :=
  c.observations.endpointObservations

/-- A post to an endpoint, and what had been observed when it was made. -/
structure Contact where
  endpoint : Endpoint
  payload : RelayPayload
  url : String
  observed : List EndpointObservation

def Gateway.Offer.Permits (o : Gateway.Offer) (e : Endpoint) (observed : List EndpointObservation) :
    Prop :=
  (∃ addr, o.endpoints.find? addr = some e) ∨
    (o.inRollover = true ∧ o.fallbacks.least? = some e ∧
      ∃ failed ∈ observed, failed.isFallback = false ∧ failed.isError = true)

def Contact.Lawful (o : Gateway.Offer) (x : Contact) : Prop :=
  o.Permits x.endpoint x.observed ∧ x.url = targetUrl x.endpoint x.payload

variable {ω : Type}

def Relays.posted (r r' : Relays (Recorder ω)) : List String :=
  (r'.outside.calls.drop r.outside.calls.length).filterMap Call.postedUrl?

theorem Relays.posted_of_eq {r r' : Relays (Recorder ω)} (h : r'.outside = r.outside) :
    r.posted r' = [] := by
  unfold posted
  rw [h, List.drop_length, List.filterMap_nil]

namespace Attempt
variable {a : Attempt} {r r' r'' : Relays (Recorder ω)} {payload : RelayPayload} {c : RequestContext}

theorem Calls.posted_trans {a' : Attempt} (h : a.Calls r r') (h' : a'.Calls r' r'') :
    r.posted r'' = r.posted r' ++ r'.posted r'' := by
  obtain ⟨calls, heq, -⟩ := h
  obtain ⟨calls', heq', -⟩ := h'
  unfold Relays.posted
  rw [heq', heq, List.drop_left, List.append_assoc, List.drop_left, ← List.append_assoc,
    List.drop_left, List.filterMap_append]

theorem Calls.eq_url (h : a.Calls r r') {url : String} (hurl : url ∈ r.posted r') : url = a.url := by
  obtain ⟨calls, heq, hmakes⟩ := h
  unfold Relays.posted at hurl
  rw [heq, List.drop_left] at hurl
  obtain ⟨call, hmem, hcall⟩ := List.mem_filterMap.1 hurl
  cases call with
  | post url' body timeout =>
    cases hcall
    exact hmakes _ hmem
  | sign request app => cases hcall
  | validate supplier reply => cases hcall

def contacts (a : Attempt) (payload : RelayPayload) (c : RequestContext)
    (r r' : Relays (Recorder ω)) : List Contact :=
  (r.posted r').map fun url => ⟨a.endpoint, payload, url, c.observed⟩

theorem contacts_url : (a.contacts payload c r r').map Contact.url = r.posted r' := by
  unfold contacts
  rw [List.map_map]
  exact List.map_id _

theorem contacts_lawful {o : Gateway.Offer} (hcalls : a.Calls r r')
    (hpermits : o.Permits a.endpoint c.observed) (hurl : a.url = targetUrl a.endpoint payload) :
    ∀ x ∈ a.contacts payload c r r', x.Lawful o := by
  intro x hx
  obtain ⟨url, hmem, rfl⟩ := List.mem_map.1 hx
  exact ⟨hpermits, (hcalls.eq_url hmem).trans hurl⟩

end Attempt

namespace Dispatch
variable {o : Gateway.Offer} {c : RequestContext} {r : Relays (Recorder ω)} {now deadline : Nat}
variable {id : ProcessId} {payload : RelayPayload} {a : Attempt} {retry : Option Endpoint}
variable {s : Relays (Recorder ω) × AttemptProgress} {d : Dispatch}

/-- An offer permits the attempt at hand, and the one that may follow it. -/
structure Within (o : Gateway.Offer) (payload : RelayPayload) (a : Attempt) (retry : Option Endpoint)
    (observed : List EndpointObservation) : Prop where
  permits : o.Permits a.endpoint observed
  url : a.url = targetUrl a.endpoint payload
  retry : ∀ fallback, retry = some fallback →
    a.endpoint.isFallback = false ∧ o.inRollover = true ∧ o.fallbacks.least? = some fallback

theorem first_within (config : RelayConfig) (payload : RelayPayload) {endpoint : Endpoint}
    (hoffer : c.offer = o) (hendpoint : ∃ addr, o.endpoints.find? addr = some endpoint) :
    Within o payload (first config now payload c endpoint).1 (first config now payload c endpoint).2
      c.observed := by
  unfold first
  dsimp only
  split
  next fallback hfallback =>
    refine ⟨.inl hendpoint, rfl, ?_⟩
    rintro _ ⟨⟩
    split at hfallback
    · cases hfallback
    · next hprotocol =>
      unfold RequestContext.rolloverFallback? at hfallback
      split at hfallback
      · next hrollover =>
        subst hoffer
        exact ⟨Bool.eq_false_iff.2 hprotocol, hrollover, hfallback⟩
      · cases hfallback
  · exact ⟨.inl hendpoint, rfl, nofun⟩

/-- After the failure of an attempt at a protocol endpoint, the fallback is permitted. -/
theorem Within.second {fallback : Endpoint} (h : Within o payload a (some fallback) c.observed)
    (now deadline : Nat) (e : RelayError) :
    Within o payload (attemptAt fallback payload now deadline) none
      (c.observe (a.observation now (.error e))).observed := by
  obtain ⟨hprotocol, hrollover, hleast⟩ := h.retry fallback rfl
  refine ⟨.inr ⟨hrollover, hleast, a.observation now (.error e), ?_, hprotocol, rfl⟩, rfl, nofun⟩
  exact List.mem_append_right _ List.mem_cons_self

theorem afterLast_relays : (afterLast now payload deadline a c s).2.1 = s.1 := by
  obtain ⟨r, progress⟩ := s
  cases progress <;> rfl

variable [Collaborators ω]

def contacts (now : Nat) (id : ProcessId) (payload : RelayPayload) (deadline : Nat) (a : Attempt)
    (retry : Option Endpoint) (c : RequestContext) (r : Relays (Recorder ω))
    (s : Relays (Recorder ω) × AttemptProgress) : List Contact :=
  a.contacts payload c r s.1 ++
    match retry, s.2 with
    | some fallback, .done (.error e) =>
      let second := attemptAt fallback payload now deadline
      second.contacts payload (c.observe (a.observation now (.error e))) s.1
        (second.start now id s.1).1
    | _, _ => []

theorem contacts_lawful (h : Within o payload a retry c.observed) (hcalls : a.Calls r s.1) :
    ∀ x ∈ contacts now id payload deadline a retry c r s, x.Lawful o := by
  intro x hx
  rcases List.mem_append.1 hx with hx | hx
  · exact Attempt.contacts_lawful hcalls h.permits h.url x hx
  · split at hx
    · next fallback e _ _ =>
      have hsecond := h.second now deadline e
      exact Attempt.contacts_lawful (Attempt.start_recorded ..).calls hsecond.permits hsecond.url x hx
    · cases hx

/-- The contacts are all that is posted. -/
theorem contacts_url (hcalls : a.Calls r s.1) :
    (contacts now id payload deadline a retry c r s).map Contact.url =
      r.posted (advance now id payload deadline a retry c s).2.1 := by
  obtain ⟨r', progress⟩ := s
  unfold contacts
  rw [List.map_append, Attempt.contacts_url]
  cases retry with
  | none => cases progress <;> exact List.append_nil _
  | some fallback =>
    cases progress with
    | waiting stage => exact List.append_nil _
    | done result =>
      cases result with
      | ok response => exact List.append_nil _
      | error e =>
        have hsecond :=
          (Attempt.start_recorded (attemptAt fallback payload now deadline) now id r').calls
        dsimp only
        rw [Attempt.contacts_url, ← hcalls.posted_trans hsecond]
        unfold advance afterFirst
        dsimp only
        rw [afterLast_relays]

omit [Collaborators ω] in
theorem afterLast_context : ∃ state observations,
    (afterLast now payload deadline a c s).1 = { c with state, observations } := by
  obtain ⟨r, progress⟩ := s
  cases progress with
  | waiting stage => exact ⟨_, _, rfl⟩
  | done result => exact ⟨_, _, rfl⟩

/-- A dispatch leaves what its context was built over, and the selection. -/
theorem advance_context : ∃ state observations,
    (advance now id payload deadline a retry c s).1 = { c with state, observations } := by
  cases retry with
  | none => exact afterLast_context
  | some fallback =>
    obtain ⟨r, progress⟩ := s
    cases progress with
    | waiting stage => exact ⟨_, _, rfl⟩
    | done result =>
      cases result with
      | ok response => exact ⟨_, _, rfl⟩
      | error e => exact afterLast_context

omit [Collaborators ω] in
theorem afterLast_within (h : Within o payload a none c.observed)
    (hwaiting : (afterLast now payload deadline a c s).2.2 = .waiting d) :
    Within o d.payload d.attempt d.retry (afterLast now payload deadline a c s).1.observed := by
  obtain ⟨r, progress⟩ := s
  cases progress with
  | waiting stage =>
    cases hwaiting
    exact h
  | done result => cases hwaiting

/-- What a dispatch waits with is permitted again. -/
theorem advance_within (h : Within o payload a retry c.observed)
    (hwaiting : (advance now id payload deadline a retry c s).2.2 = .waiting d) :
    Within o d.payload d.attempt d.retry
      (advance now id payload deadline a retry c s).1.observed := by
  cases retry with
  | none => exact afterLast_within h hwaiting
  | some fallback =>
    obtain ⟨r, progress⟩ := s
    cases progress with
    | waiting stage =>
      cases hwaiting
      exact h
    | done result =>
      cases result with
      | ok response => cases hwaiting
      | error e => exact afterLast_within (h.second now deadline e) hwaiting

end Dispatch

/-! ## Selections -/

namespace RequestContext
variable {c : RequestContext}

/-- Whatever chooses, what is selected is selected among the candidates. -/
theorem selectEndpoint_spec (c : RequestContext)
    (choose : List EndpointAddr → Except String EndpointAddr) :
    (c.selectEndpoint choose).1.offer = c.offer ∧ (c.selectEndpoint choose).1.observed = c.observed ∧
      ∀ e, (c.selectEndpoint choose).1.selected = some e →
        c.selected = some e ∨ ∃ addr, c.endpoints.find? addr = some e := by
  unfold selectEndpoint
  split
  · split
    · exact ⟨rfl, rfl, fun e he => .inl he⟩
    · cases choose c.candidates with
      | error reason => exact ⟨rfl, rfl, fun e he => .inl he⟩
      | ok addr =>
        dsimp only
        cases hfind : c.endpoints.find? addr with
        | none => exact ⟨rfl, rfl, fun e he => .inl he⟩
        | some endpoint =>
          refine ⟨rfl, rfl, ?_⟩
          rintro e ⟨⟩
          exact .inr ⟨addr, hfind⟩
  · exact ⟨rfl, rfl, fun e he => .inl he⟩

theorem selected_of_dispatchable {e : Endpoint} (h : c.dispatchable = .ok e) : c.selected = some e := by
  unfold dispatchable at h
  split at h
  · cases hselected : c.selected with
    | none =>
      rw [hselected] at h
      cases h
    | some e' =>
      rw [hselected] at h
      cases h
      rfl
  · split at h <;> cases h

end RequestContext

/-! ## Handlings -/

def DispatchProgress.running? : DispatchProgress → Option Dispatch
  | .waiting d => some d
  | .done _ => none

/-- How far the handling of a context has come. `posted` are the URLs that were posted to, in order. -/
structure Handling where
  context : RequestContext
  running : Option Dispatch
  contacts : List Contact
  posted : List String

namespace Handling
variable [Collaborators ω] {o : Gateway.Offer} {h : Handling}

def start (c : RequestContext) : Handling := ⟨c, none, [], []⟩

/-- What can be done with a context. `choose` is any way to choose, and what the relays share is given
anew at each step: others may have changed it in between. -/
inductive Action (ω : Type) where
  | select (choose : List EndpointAddr → Except String EndpointAddr)
  | begin (config : RelayConfig) (now : Nat) (id : ProcessId) (payload : RelayPayload)
    (r : Relays (Recorder ω))
  | resume (now : Nat) (id : ProcessId) (r : Relays (Recorder ω))
  | drop (id : ProcessId) (r : Relays (Recorder ω))

def after (h : Handling) (r : Relays (Recorder ω)) (contacts : List Contact)
    (t : RequestContext × Relays (Recorder ω) × DispatchProgress) : Handling :=
  ⟨t.1, t.2.2.running?, h.contacts ++ contacts, h.posted ++ r.posted t.2.1⟩

def beginContacts (config : RelayConfig) (now : Nat) (id : ProcessId) (payload : RelayPayload)
    (c : RequestContext) (r : Relays (Recorder ω)) : List Contact :=
  match c.dispatchable with
  | .error _ => []
  | .ok endpoint =>
    let (a, retry) := Dispatch.first config now payload c endpoint
    Dispatch.contacts now id payload (now + Dispatch.timeoutOf config payload) a retry
      { c with state := .dispatched } r (a.start now id r)

def resumeContacts (now : Nat) (id : ProcessId) (d : Dispatch) (c : RequestContext)
    (r : Relays (Recorder ω)) : List Contact :=
  Dispatch.contacts now id d.payload d.deadline d.attempt d.retry c r
    (d.attempt.resume now id r d.stage)

/-- A dispatch keeps its context to itself while it runs. -/
def act (h : Handling) : Action ω → Handling
  | .select choose =>
    if h.running.isSome then h else { h with context := (h.context.selectEndpoint choose).1 }
  | .begin config now id payload r =>
    if h.running.isSome then h
    else h.after r (beginContacts config now id payload h.context r)
      (Dispatch.begin config now id payload h.context r)
  | .resume now id r =>
    match h.running with
    | none => h
    | some d => h.after r (resumeContacts now id d h.context r) (d.resume now id h.context r)
  | .drop id r =>
    match h.running with
    | none => h
    | some d => { h with running := none, posted := h.posted ++ r.posted (d.drop id r) }

def run (c : RequestContext) (actions : List (Action ω)) : Handling := actions.foldl act (start c)

theorem act_begin (hrunning : h.running = none) {config : RelayConfig} {now : Nat} {id : ProcessId}
    {payload : RelayPayload} {r : Relays (Recorder ω)} :
    h.act (.begin config now id payload r) = h.after r (beginContacts config now id payload h.context r)
      (Dispatch.begin config now id payload h.context r) := by
  unfold act
  dsimp only
  rw [hrunning]
  rfl

theorem act_resume {d : Dispatch} (hrunning : h.running = some d) {now : Nat} {id : ProcessId}
    {r : Relays (Recorder ω)} : h.act (.resume now id r) =
      h.after r (resumeContacts now id d h.context r) (d.resume now id h.context r) := by
  unfold act
  dsimp only
  rw [hrunning]

/-- All that a handling does is within what its context was built over. -/
structure Bound (o : Gateway.Offer) (h : Handling) : Prop where
  offer : h.context.offer = o
  selected : ∀ e, h.context.selected = some e → ∃ addr, o.endpoints.find? addr = some e
  running : ∀ d, h.running = some d →
    Dispatch.Within o d.payload d.attempt d.retry h.context.observed
  lawful : ∀ x ∈ h.contacts, x.Lawful o
  posted : h.contacts.map Contact.url = h.posted

theorem bound_start (c : RequestContext) (hc : c.selected = none) : Bound c.offer (start c) := by
  refine ⟨rfl, ?_, ?_, ?_, rfl⟩
  · intro e he
    cases hc.symm.trans he
  · intro d hd
    cases hd
  · intro x hx
    cases hx

/-- A step of a dispatch under the context `c`, which offers what the handling's own does. -/
theorem Bound.advance {c : RequestContext} {r : Relays (Recorder ω)} {now deadline : Nat}
    {id : ProcessId} {payload : RelayPayload} {a : Attempt} {retry : Option Endpoint}
    {s : Relays (Recorder ω) × AttemptProgress} (hbound : Bound o h)
    (hoffer : c.offer = h.context.offer) (hselected : c.selected = h.context.selected)
    (hwithin : Dispatch.Within o payload a retry c.observed) (hcalls : a.Calls r s.1) :
    Bound o (h.after r (Dispatch.contacts now id payload deadline a retry c r s)
      (Dispatch.advance now id payload deadline a retry c s)) := by
  obtain ⟨state, observations, hcontext⟩ : ∃ state observations,
      (Dispatch.advance now id payload deadline a retry c s).1 = { c with state, observations } :=
    Dispatch.advance_context
  refine ⟨?_, ?_, ?_, ?_, ?_⟩
  · unfold after
    rw [hcontext]
    exact hoffer.trans hbound.offer
  · intro e he
    unfold after at he
    rw [hcontext] at he
    exact hbound.selected e (hselected ▸ he)
  · intro d hd
    refine Dispatch.advance_within hwithin ?_
    unfold after at hd
    cases hprogress : (Dispatch.advance now id payload deadline a retry c s).2.2 with
    | waiting d' =>
      rw [hprogress] at hd
      cases hd
      rfl
    | done result =>
      rw [hprogress] at hd
      cases hd
  · intro x hx
    rcases List.mem_append.1 hx with hx | hx
    · exact hbound.lawful x hx
    · exact Dispatch.contacts_lawful hwithin hcalls x hx
  · unfold after
    rw [List.map_append, hbound.posted, Dispatch.contacts_url hcalls]

theorem Bound.select (hbound : Bound o h) (choose : List EndpointAddr → Except String EndpointAddr) :
    Bound o { h with context := (h.context.selectEndpoint choose).1 } := by
  obtain ⟨hoffer, hobserved, hselected⟩ := h.context.selectEndpoint_spec choose
  refine ⟨hoffer.trans hbound.offer, ?_, ?_, hbound.lawful, hbound.posted⟩
  · intro e he
    rcases hselected e he with he | hfind
    · exact hbound.selected e he
    · have hendpoints : h.context.endpoints = o.endpoints := hbound.offer ▸ rfl
      exact hendpoints ▸ hfind
  · intro d hd
    exact hobserved ▸ hbound.running d hd

theorem Bound.begin (hbound : Bound o h) (config : RelayConfig) (now : Nat) (id : ProcessId)
    (payload : RelayPayload) (r : Relays (Recorder ω)) :
    Bound o (h.after r (beginContacts config now id payload h.context r)
      (Dispatch.begin config now id payload h.context r)) := by
  unfold beginContacts Dispatch.begin
  cases hdispatchable : h.context.dispatchable with
  | error e =>
    refine ⟨hbound.offer, hbound.selected, ?_, ?_, ?_⟩
    · intro d hd
      cases hd
    · unfold after
      rw [List.append_nil]
      exact hbound.lawful
    · unfold after
      rw [Relays.posted_of_eq rfl, List.append_nil, List.append_nil]
      exact hbound.posted
  | ok endpoint =>
    have hendpoint := hbound.selected endpoint (RequestContext.selected_of_dispatchable hdispatchable)
    exact hbound.advance (c := { h.context with state := .dispatched }) rfl rfl
      (Dispatch.first_within config payload hbound.offer hendpoint) (Attempt.start_recorded ..).calls

omit [Collaborators ω] in
theorem Bound.drop (hbound : Bound o h) (id : ProcessId) (r : Relays (Recorder ω)) (d : Dispatch) :
    Bound o { h with running := none, posted := h.posted ++ r.posted (d.drop id r) } := by
  refine ⟨hbound.offer, hbound.selected, ?_, hbound.lawful, ?_⟩
  · intro d' hd
    cases hd
  · unfold Dispatch.drop
    rw [Relays.posted_of_eq (Attempt.drop_outside ..), List.append_nil]
    exact hbound.posted

/-- Every step stays within what the context was built over. -/
theorem Bound.act (hbound : Bound o h) (action : Action ω) : Bound o (h.act action) := by
  cases action with
  | select choose =>
    unfold Handling.act
    dsimp only
    split
    · exact hbound
    · exact hbound.select choose
  | begin config now id payload r =>
    cases hrunning : h.running with
    | none =>
      rw [act_begin hrunning]
      exact hbound.begin config now id payload r
    | some d =>
      unfold Handling.act
      dsimp only
      rw [hrunning]
      exact hbound
  | resume now id r =>
    cases hrunning : h.running with
    | none =>
      unfold Handling.act
      dsimp only
      rw [hrunning]
      exact hbound
    | some d =>
      rw [act_resume hrunning]
      exact hbound.advance rfl rfl (hbound.running d hrunning) (Attempt.resume_recorded ..).calls
  | drop id r =>
    unfold Handling.act
    cases h.running with
    | none => exact hbound
    | some d => exact hbound.drop id r d

/-- And so does a whole handling. -/
theorem run_bound {c : RequestContext} (hc : c.selected = none) (actions : List (Action ω)) :
    Bound c.offer (run c actions) :=
  List.foldlRecOn actions act (bound_start c hc) fun _ hbound action _ => hbound.act action

end Handling
end RelayGateway
