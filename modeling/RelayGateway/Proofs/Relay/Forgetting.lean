import RelayGateway.Relay.Dispatch

/-! # What the collaborators keep for themselves

Collaborators may keep something beside what they answer by. Attempts and dispatches never see it, so
they do the same when it is forgotten.
-/
namespace RelayGateway
variable {ω ω' : Type}

/-- `f` forgets something that has no part in how relays are signed, posted and validated. -/
structure Collaborators.Forgets [Collaborators ω] [Collaborators ω'] (f : ω → ω') : Prop where
  sign (now : Nat) (request : RelayRequest) (app : Application) (x : ω) :
    sign now request app (f x) = Prod.map id f (sign now request app x)
  post (now : Nat) (url : String) (body : Bytes) (timeout : Nat) (x : ω) :
    post now url body timeout (f x) = Prod.map id f (post now url body timeout x)
  validate (now : Nat) (supplier : String) (reply : Bytes) (x : ω) :
    validate now supplier reply (f x) = Prod.map id f (validate now supplier reply x)

def Relays.map (f : ω → ω') (r : Relays ω) : Relays ω' :=
  ⟨r.limiter, r.signatures, f r.outside, r.woken⟩

namespace Attempt
variable {f : ω → ω'} {a : Attempt} {now : Nat} {id : ProcessId} {r : Relays ω} {body : Bytes}

def forget (f : ω → ω') (s : Relays ω × AttemptProgress) : Relays ω' × AttemptProgress :=
  (s.1.map f, s.2)

theorem drop_outside (id : ProcessId) (r : Relays ω) (stage : AttemptStage) :
    (drop id r stage).outside = r.outside := by
  cases stage <;> rfl

theorem drop_map (f : ω → ω') (id : ProcessId) (r : Relays ω) (stage : AttemptStage) :
    drop id (r.map f) stage = (drop id r stage).map f := by
  cases stage <;> rfl

theorem awaitVerdict_map (verdict : Pending (Except ChainError ValidatedRelay)) :
    a.awaitVerdict now (r.map f) verdict = forget f (a.awaitVerdict now r verdict) := by
  unfold awaitVerdict
  cases verdict.ready? now with
  | some result => cases result <;> rfl
  | none =>
    dsimp only
    split <;> rfl

variable [Collaborators ω] [Collaborators ω']

theorem validate_map (hf : Collaborators.Forgets f) (reply : Bytes) :
    a.validate now reply (r.map f) = forget f (a.validate now reply r) := by
  unfold validate
  dsimp only [Relays.map]
  rw [hf.validate]
  exact awaitVerdict_map
    (r := { r with outside := (Collaborators.validate now a.endpoint.supplier reply r.outside).2 }) _

theorem awaitReply_map (hf : Collaborators.Forgets f) (reply : Pending (Except TransportError Bytes)) :
    a.awaitReply now id (r.map f) reply = forget f (a.awaitReply now id r reply) := by
  unfold awaitReply
  cases reply.ready? now with
  | some result =>
    cases result with
    | error e => rfl
    | ok bytes =>
      dsimp only
      rw [apply_ite (forget f), ← validate_map hf]
      rfl
  | none =>
    dsimp only
    split <;> rfl

theorem post_map (hf : Collaborators.Forgets f) :
    a.post now id body (r.map f) = forget f (a.post now id body r) := by
  unfold post
  dsimp only [Relays.map]
  rw [hf.post]
  exact awaitReply_map hf _
    (r := { r with outside := (Collaborators.post now a.url body (a.deadline - now) r.outside).2 })

theorem awaitPermit_map (hf : Collaborators.Forgets f) :
    a.awaitPermit now id body (r.map f) = forget f (a.awaitPermit now id body r) := by
  unfold awaitPermit
  dsimp only
  rw [apply_ite (forget f), apply_ite (forget f), ← post_map hf]
  rfl

theorem enter_map (hf : Collaborators.Forgets f) :
    a.enter now id body (r.map f) = forget f (a.enter now id body r) :=
  awaitPermit_map (r := { r with limiter := r.limiter.request id }) hf

theorem afterSigning_map (hf : Collaborators.Forgets f) (result : Except SignerError SignedRelay) :
    a.afterSigning now id (r.map f) result = forget f (a.afterSigning now id r result) := by
  cases result with
  | ok signed => exact enter_map hf
  | error e => rfl

theorem awaitSignature_map (hf : Collaborators.Forgets f)
    (answer : Pending (Except SignerError SignedRelay)) :
    a.awaitSignature now id (r.map f) answer = forget f (a.awaitSignature now id r answer) := by
  unfold awaitSignature
  cases answer.ready? now with
  | some result =>
    exact afterSigning_map (r := r.afterSignature (r.signatures.finish id result)) hf result
  | none =>
    dsimp only
    split <;> rfl

theorem proceed_map (hf : Collaborators.Forgets f) (request : RelayRequest) (app : Application)
    (step : SignatureCache.Step) :
    a.proceed now id request app (r.map f) step = forget f (a.proceed now id request app r step) := by
  unfold proceed
  dsimp only [Relays.map, Relays.afterSignature]
  cases step.progress with
  | done result => exact afterSigning_map (r := r.afterSignature step) hf result
  | compute =>
    dsimp only
    rw [hf.sign]
    exact awaitSignature_map hf _ (r :=
      { r.afterSignature step with outside := (Collaborators.sign now request app r.outside).2 })
  | wait =>
    dsimp only
    split <;> rfl

theorem start_map (hf : Collaborators.Forgets f) (a : Attempt) (now : Nat) (id : ProcessId)
    (r : Relays ω) : a.start now id (r.map f) = forget f (a.start now id r) := by
  unfold start
  rw [apply_ite (forget f), ← enter_map hf]
  cases a.request? with
  | error e => rfl
  | ok p => exact congrArg _ (proceed_map hf p.1 p.2 _)

theorem resume_map (hf : Collaborators.Forgets f) (a : Attempt) (now : Nat) (id : ProcessId)
    (r : Relays ω) (stage : AttemptStage) :
    a.resume now id (r.map f) stage = forget f (a.resume now id r stage) := by
  cases stage with
  | signing answer => exact awaitSignature_map hf answer
  | queueing body => exact awaitPermit_map hf
  | posting reply => exact awaitReply_map hf reply
  | validating verdict => exact awaitVerdict_map verdict
  | sharing =>
    unfold resume
    cases a.request? with
    | error e => rfl
    | ok p => exact proceed_map hf p.1 p.2 _

end Attempt

namespace Dispatch
variable {f : ω → ω'} {now deadline : Nat} {id : ProcessId} {payload : RelayPayload} {a : Attempt}
variable {retry : Option Endpoint} {c : RequestContext}

def forget (f : ω → ω') (s : RequestContext × Relays ω × DispatchProgress) :
    RequestContext × Relays ω' × DispatchProgress :=
  (s.1, s.2.1.map f, s.2.2)

theorem afterLast_map (s : Relays ω × AttemptProgress) :
    afterLast now payload deadline a c (Attempt.forget f s) =
      forget f (afterLast now payload deadline a c s) := by
  obtain ⟨r, progress⟩ := s
  cases progress <;> rfl

variable [Collaborators ω] [Collaborators ω']

theorem advance_map (hf : Collaborators.Forgets f) (s : Relays ω × AttemptProgress) :
    advance now id payload deadline a retry c (Attempt.forget f s) =
      forget f (advance now id payload deadline a retry c s) := by
  cases retry with
  | none => exact afterLast_map s
  | some fallback =>
    obtain ⟨r, progress⟩ := s
    cases progress with
    | waiting stage => rfl
    | done result =>
      cases result with
      | ok response => rfl
      | error e =>
        unfold advance afterFirst Attempt.forget
        dsimp only
        rw [Attempt.start_map hf, afterLast_map]

/-- What is forgotten changes nothing in how a dispatch begins. -/
theorem begin_map (hf : Collaborators.Forgets f) (config : RelayConfig) (now : Nat) (id : ProcessId)
    (payload : RelayPayload) (c : RequestContext) (r : Relays ω) :
    begin config now id payload c (r.map f) = forget f (begin config now id payload c r) := by
  unfold begin
  cases c.dispatchable with
  | error e => rfl
  | ok endpoint =>
    dsimp only
    rw [Attempt.start_map hf, advance_map hf]

/-- Nor in how it goes on. -/
theorem resume_map (hf : Collaborators.Forgets f) (now : Nat) (id : ProcessId) (d : Dispatch)
    (c : RequestContext) (r : Relays ω) : d.resume now id c (r.map f) = forget f (d.resume now id c r) := by
  unfold resume
  rw [Attempt.resume_map hf, advance_map hf]

end Dispatch
end RelayGateway
