import RelayGateway.Proofs.Relay.Handling
import RelayGateway.Proofs.Relay.Signatures
import RelayGateway.Proofs.Signing.Key
import RelayGateway.Proofs.Signing.Wire
import RelayGateway.Script

/-! # Only validated replies, and the right relay

An attempt at a protocol endpoint posts what the signer has signed for it, and answers with what the chain
has made of the reply. An attempt at a fallback posts the payload as it is. The signature may come from
another attempt, through the cache, under the key of both; that it is a signature for the right relay rests
on the signer, on the sessions and on the digest.
-/
namespace RelayGateway
variable {ω : Type}

def Exchange.isSign : Exchange → Bool
  | sign .. => true
  | _ => false

/-! ## The conversation of an attempt -/

def Phase.isOpening : Phase → Bool
  | fresh | looked _ | .at .sharing | .at (.signing _) | .at (.queueing _) => true
  | _ => false

namespace Attempt
variable {a : Attempt} {now now' : Nat} {id : ProcessId} {r r' : Relays (Ledger ω)} {p p' : Phase}
variable {xs : List Exchange} {stage : AttemptStage}

inductive Conversation (a : Attempt) (now : Nat) : Phase → List Exchange → Prop
  | opening {p : Phase} {xs : List Exchange} (early : p.isOpening = true)
      (signs : ∀ x ∈ xs, x.isSign = true) : Conversation a now p xs
  | posting {xs : List Exchange} {posted : Nat} {body : Bytes}
      {reply : Pending (Except TransportError Bytes)} (signs : ∀ x ∈ xs, x.isSign = true) :
      Conversation a now (.at (.posting reply)) (xs ++ [.post posted a.url body (a.deadline - posted) reply])
  | validating {xs : List Exchange} {posted asked : Nat} {body bytes : Bytes}
      {reply : Pending (Except TransportError Bytes)} {verdict : Pending (Except ChainError ValidatedRelay)}
      (signs : ∀ x ∈ xs, x.isSign = true) (ready : reply.ready? asked = some (.ok bytes)) :
      Conversation a now (.at (.validating verdict))
        (xs ++ [.post posted a.url body (a.deadline - posted) reply] ++
          [.validate asked a.endpoint.supplier bytes verdict])
  | validated {xs : List Exchange} {posted asked : Nat} {body bytes : Bytes}
      {reply : Pending (Except TransportError Bytes)} {verdict : Pending (Except ChainError ValidatedRelay)}
      {v : ValidatedRelay} (signs : ∀ x ∈ xs, x.isSign = true)
      (ready : reply.ready? asked = some (.ok bytes)) (valid : verdict.ready? now = some (.ok v)) :
      Conversation a now (.ended (.ok ⟨a.endpoint.addr, v.payload, v.status⟩))
        (xs ++ [.post posted a.url body (a.deadline - posted) reply] ++
          [.validate asked a.endpoint.supplier bytes verdict])
  | failed (e : RelayError) (xs : List Exchange) : Conversation a now (.ended (.error e)) xs

theorem Conversation.fresh : a.Conversation now .fresh [] := .opening rfl fun x hx => by cases hx

theorem Conversation.later (h : a.Conversation now (.at stage) xs) (now' : Nat) :
    a.Conversation now' (.at stage) xs := by
  cases h with
  | opening early signs => exact .opening early signs
  | posting signs => exact .posting signs
  | validating signs ready => exact .validating signs ready

theorem Conversation.signs (h : a.Conversation now p xs) (early : p.isOpening = true) :
    ∀ x ∈ xs, x.isSign = true := by
  cases h with
  | opening _ signs => exact signs
  | posting signs => cases early
  | validating signs ready => cases early
  | validated signs ready valid => cases early
  | failed e xs => cases early

variable [Collaborators ω]

theorem Move.conversation (move : a.Move now id (r, p) (r', p')) (protocol : a.endpoint.isFallback = false)
    (h : a.Conversation now p xs) : a.Conversation now p' (xs ++ r.since r') := by
  have hsilent : r'.outside = r.outside → xs ++ r.since r' = xs := fun heq => by
    rw [Relays.since_of_eq heq, List.append_nil]
  have hopening : p.isOpening = true → p'.isOpening = true → r'.outside = r.outside →
      a.Conversation now p' (xs ++ r.since r') := fun early early' heq => by
    rw [hsilent heq]
    exact .opening early' (h.signs early)
  have hone : ∀ {x}, r'.outside.exchanges = r.outside.exchanges ++ [x] → r.since r' = [x] :=
    fun heq => (Relays.since_append .rfl heq).trans (by rw [Relays.since_of_eq rfl, List.nil_append])
  cases move with
  | enter fallback => cases protocol.symm.trans fallback
  | accept fallback ready => cases protocol.symm.trans fallback
  | refuse early bad => exact .failed _ _
  | lapse due unready => exact .failed _ _
  | unsigned => exact .failed _ _
  | unposted ready => exact .failed _ _
  | invalid ready => exact .failed _ _
  | begin protocol good => exact hopening rfl rfl rfl
  | resume good => exact hopening rfl rfl rfl
  | share => exact hopening rfl rfl rfl
  | signed ready => exact hopening rfl rfl rfl
  | queue => exact hopening rfl rfl rfl
  | sign good =>
    rw [hone rfl]
    refine .opening rfl fun x hx => ?_
    rcases List.mem_append.1 hx with hx | hx
    · exact h.signs rfl x hx
    · rw [List.mem_singleton.1 hx]
      rfl
  | post holds =>
    rw [hone rfl]
    exact .posting (h.signs rfl)
  | validate protocol ready =>
    rw [hone rfl]
    cases h with
    | opening early signs => cases early
    | posting signs => exact .validating signs ready
  | valid ready =>
    rw [hsilent rfl]
    cases h with
    | opening early signs => cases early
    | validating signs ready' => exact .validated signs ready' ready

theorem Turned.conversation {s : Relays (Ledger ω) × AttemptProgress} (h : a.Turned now id (r, p) s)
    (protocol : a.endpoint.isFallback = false) (talk : a.Conversation now p xs) :
    a.Conversation now s.2.phase (xs ++ r.since s.1) := by
  refine (h.keeps (fun r' p' => r.Grows r' ∧ a.Conversation now p' (xs ++ r.since r')) ?_ ⟨.rfl, ?_⟩).2
  · rintro r₁ p₁ r₂ p₂ move ⟨grows, talk⟩
    refine ⟨grows.trans move.grows, ?_⟩
    rw [Relays.since_trans grows move.grows, ← List.append_assoc]
    exact move.conversation protocol talk
  · rwa [Relays.since_of_eq rfl, List.append_nil]

/-! ## Fallbacks -/

/-- An attempt at a fallback is never anywhere else, and has its payload to post. -/
def IsPlain (a : Attempt) : Phase → Prop
  | .fresh | .at (.posting _) | .ended _ => True
  | .at (.queueing body) => body = a.data
  | _ => False

def Forwards (a : Attempt) (x : Exchange) : Prop :=
  ∃ posted timeout reply, x = .post posted a.url a.data timeout reply

omit [Collaborators ω] in
theorem IsPlain.drop {r : Relays (Ledger ω)} (h : a.IsPlain (.at stage)) :
    (drop id r stage).signatures = r.signatures := by
  cases stage with
  | queueing body => rfl
  | posting reply => rfl
  | sharing => exact h.elim
  | signing answer => exact h.elim
  | validating verdict => exact h.elim

theorem Move.plain (move : a.Move now id (r, p) (r', p')) (fallback : a.endpoint.isFallback = true)
    (h : a.IsPlain p) :
    a.IsPlain p' ∧ r'.signatures = r.signatures ∧ ∀ x ∈ r.since r', a.Forwards x := by
  have hsilent : r'.outside = r.outside → ∀ x ∈ r.since r', a.Forwards x := fun heq x hx => by
    rw [Relays.since_of_eq heq] at hx
    cases hx
  cases move with
  | enter fallback => exact ⟨rfl, rfl, hsilent rfl⟩
  | refuse early bad => exact ⟨trivial, rfl, hsilent rfl⟩
  | begin protocol good => cases fallback.symm.trans protocol
  | validate protocol ready => cases fallback.symm.trans protocol
  | unposted ready => exact ⟨trivial, rfl, hsilent rfl⟩
  | accept fallback ready => exact ⟨trivial, rfl, hsilent rfl⟩
  | post holds =>
    refine ⟨trivial, rfl, fun x hx => ?_⟩
    rw [Relays.since_append .rfl rfl, Relays.since_of_eq rfl, List.nil_append] at hx
    obtain rfl : _ = a.data := h
    exact ⟨_, _, _, List.mem_singleton.1 hx⟩
  | @lapse _ stage due unready => exact ⟨trivial, h.drop, hsilent (drop_outside id r stage)⟩
  | _ => exact h.elim

theorem Turned.plain {s : Relays (Ledger ω) × AttemptProgress} (h : a.Turned now id (r, p) s)
    (fallback : a.endpoint.isFallback = true) (plain : a.IsPlain p) :
    a.IsPlain s.2.phase ∧ s.1.signatures = r.signatures ∧ ∀ x ∈ r.since s.1, a.Forwards x := by
  refine (h.keeps (fun r' p' => r.Grows r' ∧ a.IsPlain p' ∧ r'.signatures = r.signatures ∧
    ∀ x ∈ r.since r', a.Forwards x) ?_ ⟨.rfl, plain, rfl, ?_⟩).2
  · rintro r₁ p₁ r₂ p₂ move ⟨grows, plain, hsame, hforwards⟩
    obtain ⟨plain', hsame', hforwards'⟩ := move.plain fallback plain
    refine ⟨grows.trans move.grows, plain', hsame'.trans hsame, fun x hx => ?_⟩
    rw [Relays.since_trans grows move.grows] at hx
    exact (List.mem_append.1 hx).elim (hforwards x) (hforwards' x)
  · intro x hx
    rw [Relays.since_of_eq rfl] at hx
    cases hx

end Attempt

/-! ## Legs -/

namespace Leg
variable [Collaborators ω] {leg : Leg ω} {id : ProcessId} {now : Nat}

def Stands (holds : Nat → Phase → Prop) : Standing AttemptStage → Prop
  | .running stage => ∃ now, holds now (.at stage)
  | .ended now result => holds now (.ended result)
  | .dropped => True

omit [Collaborators ω] in
theorem stands_of_phase {holds : Nat → Phase → Prop} {progress : AttemptProgress}
    (h : holds now progress.phase) : Stands holds (progress.standing now) := by
  cases progress with
  | waiting stage => exact ⟨now, h⟩
  | done result => exact h

theorem Ran.conversation (h : leg.Ran id) (protocol : leg.attempt.endpoint.isFallback = false) :
    Stands (fun now p => leg.attempt.Conversation now p leg.exchanges) leg.standing := by
  induction h with
  | start a now r =>
    refine stands_of_phase ?_
    rw [exchanges_start]
    exact (a.start_turned now id r).conversation protocol .fresh
  | @resume leg h stage running now r ih =>
    have htalk := ih protocol
    rw [running] at htalk
    obtain ⟨before, htalk⟩ := htalk
    refine stands_of_phase ?_
    rw [exchanges_resume]
    exact (leg.attempt.resume_turned now id r stage).conversation protocol (htalk.later now)
  | drop h running now r ih => trivial

theorem Ran.plain (h : leg.Ran id) (fallback : leg.attempt.endpoint.isFallback = true) :
    Stands (fun _ p => leg.attempt.IsPlain p) leg.standing ∧
      ∀ turn ∈ leg.turns, turn.after.signatures = turn.before.signatures ∧
        ∀ x ∈ turn.exchanges, leg.attempt.Forwards x := by
  induction h with
  | start a now r =>
    obtain ⟨hplain, hturn⟩ := (a.start_turned now id r).plain fallback trivial
    exact ⟨stands_of_phase hplain, fun turn hmem => List.mem_singleton.1 hmem ▸ hturn⟩
  | @resume leg h stage running now r ih =>
    obtain ⟨hstands, hturns⟩ := ih fallback
    rw [running] at hstands
    obtain ⟨-, hstage⟩ := hstands
    obtain ⟨hplain, hturn⟩ := (leg.attempt.resume_turned now id r stage).plain fallback hstage
    refine ⟨stands_of_phase hplain, fun turn hmem => ?_⟩
    rcases List.mem_append.1 hmem with hmem | hmem
    · exact hturns turn hmem
    · exact List.mem_singleton.1 hmem ▸ hturn
  | @drop leg h stage running now r ih =>
    obtain ⟨hstands, hturns⟩ := ih fallback
    rw [running] at hstands
    obtain ⟨-, hstage⟩ := hstands
    refine ⟨trivial, fun turn hmem => ?_⟩
    rcases List.mem_append.1 hmem with hmem | hmem
    · exact hturns turn hmem
    · rw [List.mem_singleton.1 hmem]
      refine ⟨hstage.drop, fun x hx => ?_⟩
      rw [AttemptTurn.exchanges, Relays.since_of_eq (Attempt.drop_outside id r stage)] at hx
      cases hx

end Leg

/-! ## What the signatures are for -/

namespace Attempt
variable {a : Attempt} {request : RelayRequest} {app : Application}

theorem request?_eq_ok (h : a.request? = .ok (request, app)) :
    ∃ session, a.endpoint.session = some session ∧ session.application = some app ∧
      request = ⟨session.header, a.endpoint.supplier, a.data⟩ := by
  unfold request? at h
  cases hsession : a.endpoint.session with
  | none =>
    rw [hsession] at h
    cases h
  | some session =>
    rw [hsession] at h
    dsimp only at h
    cases happ : session.application with
    | none =>
      rw [happ] at h
      cases h
    | some app' =>
      rw [happ] at h
      dsimp only at h
      split at h
      · cases h
      · cases h
        exact ⟨session, rfl, happ, rfl⟩

def relayData? (a : Attempt) : Option RelayData :=
  match a.request? with
  | .ok (request, app) => some ⟨request.header.sessionId, request.supplier, app.address, request.payload⟩
  | .error _ => none

theorem relayData?_of_ok (h : a.request? = .ok (request, app)) : a.relayData? =
    some ⟨request.header.sessionId, request.supplier, app.address, request.payload⟩ := by
  unfold relayData?
  rw [h]

end Attempt

def Participant.legs : Participant ω → List (Leg ω)
  | delivery x => x.legs
  | permit _ => []

namespace Relaying
variable {t : Relaying ω} {leg : Leg ω}

def legs (t : Relaying ω) : List (Leg ω) := t.participants.values.flatMap Participant.legs

theorem mem_legs_iff : leg ∈ t.legs ↔ ∃ id x, t.Delivers id x ∧ leg ∈ x.legs := by
  unfold legs
  rw [List.mem_flatMap]
  constructor
  · rintro ⟨p, hp, hleg⟩
    obtain ⟨id, found⟩ := (Table.mem_values_iff ..).1 hp
    cases p with
    | delivery x => exact ⟨id, x, found, hleg⟩
    | permit p => cases hleg
  · rintro ⟨id, x, delivers, hleg⟩
    exact ⟨_, (Table.mem_values_iff ..).2 ⟨id, delivers⟩, hleg⟩

def asked (t : Relaying ω) : List RelayData := t.legs.filterMap fun leg => leg.attempt.relayData?

theorem mem_asked {request : RelayRequest} {app : Application} (hleg : leg ∈ t.legs)
    (good : leg.attempt.request? = .ok (request, app)) :
    ⟨request.header.sessionId, request.supplier, app.address, request.payload⟩ ∈ t.asked :=
  List.mem_filterMap.2 ⟨leg, hleg, Attempt.relayData?_of_ok good⟩

structure Trusted (t : Relaying ω) : Prop where
  /-- The signer returns the request that it was given. -/
  signer : ∀ asked request app answer, .sign asked request app answer ∈ t.relays.outside.exchanges →
    ∀ now signed, answer.ready? now = some (.ok signed) → signed.request = request
  /-- A session's id determines its header. -/
  sessions : ∀ leg ∈ t.legs, ∀ leg' ∈ t.legs, ∀ session session',
    leg.attempt.endpoint.session = some session → leg'.attempt.endpoint.session = some session' →
      session.id = session'.id → session.header = session'.header
  /-- No two signature keys of the run collide. -/
  collisions : RelayData.CollisionFree t.asked
  sized : ∀ d ∈ t.asked, d.Sized

end Relaying

/-! ## What is posted and what is answered -/

/-- What a leg exchanges is right, when `xs` is all that has been exchanged. -/
structure Leg.Genuine (xs : List Exchange) (payload : RelayPayload) (leg : Leg ω) : Prop where
  /-- A protocol endpoint is sent its session's header, its supplier and the payload, with a signature
  that the signer has given for them: this is what it reads from the body. -/
  posts : leg.attempt.endpoint.isFallback = false → ∀ posted url body timeout reply,
    .post posted url body timeout reply ∈ leg.exchanges →
      url = targetUrl leg.attempt.endpoint payload ∧ ∃ session app signed,
        leg.attempt.endpoint.session = some session ∧ session.application = some app ∧
        body = signed.encode ∧
        (session.header.startHeight < wordBound → session.header.endHeight < wordBound →
          SignedRelay.decode? body = some signed) ∧
        signed.request = ⟨session.header, leg.attempt.endpoint.supplier, payload.data⟩ ∧
        ∃ asked app' answer, .sign asked signed.request app' answer ∈ xs ∧ app'.address = app.address ∧
          answer.ready? posted = some (.ok signed)
  /-- The response of a protocol endpoint is the outcome of validating the reply to its one post. -/
  replies : leg.attempt.endpoint.isFallback = false → ∀ now response,
    leg.standing = .ended now (.ok response) →
      ∃ before posted url body timeout reply asked bytes verdict v,
        leg.exchanges = before ++ [.post posted url body timeout reply] ++
          [.validate asked leg.attempt.endpoint.supplier bytes verdict] ∧
        (∀ x ∈ before, x.isSign = true) ∧ reply.ready? asked = some (.ok bytes) ∧
        verdict.ready? now = some (.ok v) ∧ response = ⟨leg.attempt.endpoint.addr, v.payload, v.status⟩
  /-- A fallback is posted the payload as it is, and neither the signer, the cache nor the validator has a
  part in it. -/
  plain : leg.attempt.endpoint.isFallback = true →
    (∀ x ∈ leg.exchanges, ∃ posted timeout reply,
      x = .post posted (targetUrl leg.attempt.endpoint payload) payload.data timeout reply) ∧
    ∀ turn ∈ leg.turns, turn.after.signatures = turn.before.signatures

structure Delivery.Genuine (xs : List Exchange) (x : Delivery ω) : Prop where
  legs : ∀ leg ∈ x.legs, leg.Genuine xs x.payload
  /-- The first leg is to the selected endpoint. -/
  chosen : ∀ leg, x.legs.getLast? = some leg → x.origin.selected = some leg.attempt.endpoint
  /-- What is returned is the response of the last leg. -/
  returned : ∀ now response, x.standing = .ended now (.ok response) →
    ∃ leg, x.legs.head? = some leg ∧ leg.standing = .ended now (.ok response)

structure Relaying.Genuine (t : Relaying ω) : Prop where
  /-- Nothing is exchanged but by the legs of the dispatches. -/
  accounted : ∀ x ∈ t.relays.outside.exchanges, ∃ leg ∈ t.legs, x ∈ leg.exchanges
  deliveries : ∀ id x, t.Delivers id x → x.Genuine t.relays.outside.exchanges

namespace Delivery
variable {config : RelayConfig} {id : ProcessId} {x : Delivery ω} {leg : Leg ω}

theorem first_attempt (config : RelayConfig) (x : Delivery ω) (endpoint : Endpoint) :
    ∃ deadline, (x.first config endpoint).1 =
      Dispatch.attemptAt endpoint x.payload x.startedAt deadline := by
  unfold first Dispatch.first
  dsimp only
  split <;> exact ⟨_, rfl⟩

variable [Collaborators ω]

/-- Every leg is an attempt to send the payload of the dispatch to its endpoint. -/
theorem Shape.sends (h : Shape config id x) (hleg : leg ∈ x.legs) :
    ∃ endpoint now deadline, leg.attempt = Dispatch.attemptAt endpoint x.payload now deadline := by
  rcases (h.leg_cases hleg).2 with ⟨endpoint, attempt⟩ | ⟨fallback, t, attempt⟩
  · obtain ⟨deadline, heq⟩ := first_attempt config x endpoint
    exact ⟨endpoint, x.startedAt, deadline, attempt.trans heq⟩
  · exact ⟨fallback, t, _, attempt⟩

theorem Shape.selected_oldest (h : Shape config id x) (oldest : x.legs.getLast? = some leg) :
    x.origin.selected = some leg.attempt.endpoint := by
  cases chosen : x.origin.dispatchable with
  | ok endpoint =>
    obtain ⟨leg', -, oldest', attempt, -⟩ := h.oldest chosen
    cases oldest.symm.trans oldest'
    obtain ⟨deadline, heq⟩ := first_attempt config x endpoint
    rw [attempt, heq]
    exact RequestContext.selected_of_dispatchable chosen
  | error e =>
    cases h with
    | away e' closed legs standing =>
      rw [legs] at oldest
      cases oldest
    | first endpoint leg' chosen' => cases chosen.symm.trans chosen'
    | second endpoint fallback failed leg' t e' chosen' => cases chosen.symm.trans chosen'

end Delivery

namespace Relaying
variable {t : Relaying ω} {leg : Leg ω} {now : Nat} {request : RelayRequest} {app : Application}
variable {signed : SignedRelay}

/-- What the signer has given for the key of a request it has given for the request. -/
theorem Backed.signed_of_given (h : Backed t) (trusted : Trusted t) (hleg : leg ∈ t.legs)
    (good : leg.attempt.request? = .ok (request, app))
    (given : Given t.relays.outside.exchanges now (.ofRequest request app) signed) :
    signed.request = request ∧ ∃ asked app' answer,
      .sign asked request app' answer ∈ t.relays.outside.exchanges ∧ app'.address = app.address ∧
        answer.ready? now = some (.ok signed) := by
  -- Whoever asked the signer is a leg too. Under one key, without a collision, both ask for the same
  -- session id, supplier and payload; that the headers agree as a whole rests on the sessions.
  obtain ⟨asked, request', app', answer, hmem, hkey, ready⟩ := given
  obtain ⟨id', y, leg', delivers', hleg', hmem'⟩ := h.accounted _ hmem
  have good' : leg'.attempt.request? = .ok (request', app') := h.owned id' y leg' delivers' hleg' _ hmem'
  have hin : leg' ∈ t.legs := mem_legs_iff.2 ⟨id', y, delivers', hleg'⟩
  have hdata := trusted.collisions.eq_of_key trusted.sized (mem_asked hin good') (mem_asked hleg good) hkey
  obtain ⟨hsession, hsupplier, haddress, hpayload⟩ := RelayData.mk.inj hdata
  obtain ⟨session', found', -, rfl⟩ := Attempt.request?_eq_ok good'
  obtain ⟨session, found, -, rfl⟩ := Attempt.request?_eq_ok good
  have hheader : session'.header = session.header :=
    trusted.sessions leg' hin leg hleg session' session found' found hsession
  dsimp only at hsupplier hpayload
  rw [hheader, hsupplier, hpayload] at hmem
  exact ⟨trusted.signer _ _ _ _ hmem _ _ ready, asked, app', answer, hmem, haddress, ready⟩

variable [Collaborators ω] {config : RelayConfig} {signatures : SignatureCacheConfig} {id : ProcessId}
variable {x : Delivery ω}

theorem Backed.genuine_leg (h : Backed t) (trusted : Trusted t) (delivers : t.Delivers id x)
    (shape : Delivery.Shape config id x) (hleg : leg ∈ x.legs) :
    leg.Genuine t.relays.outside.exchanges x.payload := by
  obtain ⟨endpoint, started, deadline, hattempt⟩ := shape.sends hleg
  have ran := shape.leg_ran hleg
  have hurl : leg.attempt.url = targetUrl leg.attempt.endpoint x.payload := by rw [hattempt]; rfl
  have hpayload : leg.attempt.data = x.payload.data := by rw [hattempt]; rfl
  constructor
  · intro protocol posted url body timeout reply hpost
    obtain ⟨rfl, carries⟩ := h.owned id x leg delivers hleg _ hpost
    obtain ⟨request, app, signed, good, hbody, given⟩ := carries protocol
    obtain ⟨session, hsession, happ, hrequest⟩ := Attempt.request?_eq_ok good
    have hin : leg ∈ t.legs := mem_legs_iff.2 ⟨id, x, delivers, hleg⟩
    obtain ⟨hsigned, asked, app', answer, hmem, haddress, ready⟩ :=
      h.signed_of_given trusted hin good given
    have hheader : signed.request.header = session.header := by rw [hsigned, hrequest]
    refine ⟨hurl, session, app, signed, hsession, happ, hbody, fun start ends => ?_, ?_, asked, app', answer,
      ?_, haddress, ready⟩
    · rw [hbody]
      exact signed.decode?_encode (hheader ▸ start) (hheader ▸ ends)
    · rw [hsigned, hrequest, hpayload]
    · rwa [hsigned]
  · intro protocol now response ended
    have hstands := ran.conversation protocol
    rw [ended] at hstands
    have htalk : leg.attempt.Conversation now (.ended (.ok response)) leg.exchanges := hstands
    generalize leg.exchanges = xs at htalk
    cases htalk with
    | opening early signs => cases early
    | @validated before posted asked body bytes reply verdict v signs ready valid =>
      exact ⟨before, posted, _, body, _, reply, asked, bytes, verdict, v, rfl, signs, ready, valid, rfl⟩
  · intro fallback
    obtain ⟨-, hturns⟩ := ran.plain fallback
    refine ⟨fun y hy => ?_, fun turn hturn => (hturns turn hturn).1⟩
    obtain ⟨turn, hturn, hy⟩ := List.mem_flatMap.1 hy
    rw [← hurl, ← hpayload]
    exact (hturns turn hturn).2 y hy

/-- In every run, whatever order the dispatches run in and whoever of them fills the cache, what is posted
for a protocol endpoint has been signed for just that, what is answered has been validated, and fallbacks
are sent the payload as it is. -/
theorem Reached.genuine (h : Reached config signatures t) (trusted : Trusted t) : Genuine t where
  accounted := by
    intro e he
    obtain ⟨id, x, leg, delivers, hleg, hmem⟩ := h.backed.accounted e he
    exact ⟨leg, mem_legs_iff.2 ⟨id, x, delivers, hleg⟩, hmem⟩
  deliveries := by
    intro id x delivers
    have shape := (h.ran.2 id x delivers).shape
    refine ⟨fun leg hleg => h.backed.genuine_leg trusted delivers shape hleg,
      fun leg => shape.selected_oldest, fun now response ended => ?_⟩
    rcases shape.ended ended with ⟨-, e, herror⟩ | ⟨leg, earlier, legs, -, hended⟩
    · cases herror
    · exact ⟨leg, by rw [legs]; rfl, hended⟩

section Example

def sharedSession : Session := ⟨⟨"session", "eth", "app", 1, 5⟩, some ⟨"app", "", ["eth"]⟩, []⟩

def sharedContext : RequestContext :=
  ((RequestContext.new default "eth" (.ofEndpoints [.ofSession "node" "https://node" none sharedSession])
    ∅ false).selectEndpoint fun addrs => .ok (addrs.headD default)).1

def sharedPayload : RelayPayload := ⟨[1, 2, 3], "", .jsonRpc, none⟩

def sharedScript : Script :=
  { (default : Script) with
    signer := ⟨10, none, default⟩, transport := [⟨"https://node", 5, none, none⟩] }

def sharing : Relaying Script :=
  ((start default default sharedScript).dispatch 0 sharedContext sharedPayload).dispatch 1 sharedContext
    sharedPayload

def posting : Relaying Script := (({ sharing with now := 10 }).turn 0).turn 1

def replied : Relaying Script := (({ posting with now := 15 }).turn 0).turn 1

def signedTruly : Exchange → Bool
  | .sign _ request _ answer =>
    match answer.answer with
    | .ok signed => signed.request = request
    | .error _ => true
  | _ => true

omit [Collaborators ω] in
/-- Attempts that all ask for one signature need no assumption on the digest. -/
theorem trusted_of {data : RelayData} (signer : ∀ x ∈ t.relays.outside.exchanges, signedTruly x = true)
    (sessions : ∀ leg ∈ t.legs, leg.attempt.endpoint.session = some sharedSession)
    (asked : ∀ d ∈ t.asked, d = data) (sized : data.Sized) : Trusted t where
  signer := by
    intro when request app answer hmem now signed ready
    have htruly := signer _ hmem
    unfold signedTruly at htruly
    dsimp only at htruly
    rw [Pending.answer_of_ready? ready] at htruly
    exact of_decide_eq_true htruly
  sessions := by
    intro leg hleg leg' hleg' session session' found found' _
    cases (sessions leg hleg).symm.trans found
    cases (sessions leg' hleg').symm.trans found'
    rfl
  collisions := by
    intro d hd d' hd' _
    rw [asked d hd, asked d' hd']
  sized := fun d hd => asked d hd ▸ sized

/-- What is signed once, for the first dispatch, is posted by both, and both are answered. -/
theorem genuine_shared : Reached default default replied ∧ Trusted replied ∧
    (replied.relays.outside.exchanges.map fun x => (x.isSign, x.isPost)) =
      [(true, false), (false, true), (false, true), (false, false), (false, false)] ∧
    Genuine replied := by
  have hsharing : Reached default default sharing :=
    ((Reached.start sharedScript).act (.dispatch 0 _ _ rfl)).act
      (.dispatch 1 _ _ (Table.find?_insert_of_ne ∅ (by decide) _))
  have hposting : Reached default default posting :=
    ((hsharing.wait (by decide +kernel)).act (.turn 0)).act (.turn 1)
  have hnow : posting.now = 10 := (acted_turn _ 1).now_eq.trans (acted_turn _ 0).now_eq
  have hreplied : Reached default default replied :=
    ((hposting.wait (hnow ▸ by decide)).act (.turn 0)).act (.turn 1)
  have hsized : RelayData.Sized ⟨"session", "node", "app", [1, 2, 3]⟩ :=
    ⟨by decide, by decide, by decide, by decide⟩
  obtain ⟨signer, sessions, asked, exchanges⟩ :
      (∀ x ∈ replied.relays.outside.exchanges, signedTruly x = true) ∧
        (∀ leg ∈ replied.legs, leg.attempt.endpoint.session = some sharedSession) ∧
        (∀ d ∈ replied.asked, d = ⟨"session", "node", "app", [1, 2, 3]⟩) ∧
        (replied.relays.outside.exchanges.map fun x => (x.isSign, x.isPost)) =
          [(true, false), (false, true), (false, true), (false, false), (false, false)] := by
    decide +kernel
  have htrusted : Trusted replied := trusted_of signer sessions asked hsized
  exact ⟨hreplied, htrusted, exchanges, hreplied.genuine htrusted⟩

end Example

end Relaying
end RelayGateway
