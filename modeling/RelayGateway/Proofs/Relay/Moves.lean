import Mathlib.Logic.Relation
import RelayGateway.Proofs.Signing.Moves
import RelayGateway.Relay.Attempt

/-! # Moves of an attempt

Within a turn an attempt goes from one phase to the next until it has ended or has to wait. A move is
one such step: one call to the signature cache, the limiter or a collaborator, or one look at an answer.
Whatever the moves preserve is preserved by every turn.
-/
namespace RelayGateway
variable {ω : Type}

def Limiter.lacks (l : Limiter) (id : HolderId) : Bool := !l.granted.contains id && !l.holds id

theorem Limiter.lacks_iff {l : Limiter} {id : HolderId} :
    l.lacks id = true ↔ id ∉ l.granted ∧ id ∉ l.holders := by
  simp [lacks, holds]

/-- A request that has looked for its permit in vain leaves the limiter as it was. -/
theorem Limiter.take_of_not_holds {l : Limiter} {id : HolderId} (h : (l.take id).holds id = false) :
    l.take id = l ∧ l.lacks id = true := by
  unfold take at h ⊢
  unfold lacks
  split at h
  · exact absurd h (by simp [holds])
  · rename_i hgranted
    rw [if_neg hgranted, Bool.eq_false_iff.2 hgranted, h]
    exact ⟨rfl, rfl⟩

namespace SignatureCache
variable {c : SignatureCache} {id : CallId}

/-- A call that looks at its cell in vain leaves the cache as it was. -/
theorem resume_of_wait (h : (c.resume id).progress = .wait) : c.resume id = ⟨c, .wait, []⟩ := by
  have hresumed := resumed c id
  generalize c.resume id = step at hresumed h ⊢
  cases hresumed with
  | stays pending => exact congrArg (Step.mk c · []) h
  | adopts found stage shared filled => cases h
  | @rechecks call cell k found stage shared empty turn =>
    unfold takeTurn recheck at h
    split at h <;> cases h

/-- A new call that has to wait would wait when it looked again. -/
theorem begin_of_wait {request : RelayRequest} {app : Application}
    (h : (c.begin id request app).progress = .wait) :
    ((c.begin id request app).cache.resume id).progress = .wait := by
  have hjoin : ∀ c' : SignatureCache, (c'.join id request app).progress = .wait →
      ((c'.join id request app).cache.resume id).progress = .wait := by
    intro c' h'
    unfold join at h' ⊢
    rw [resume_of_wait h', resume_of_wait h']
  unfold begin at h ⊢
  split
  · rw [if_pos ‹_›] at h
    dsimp only at h ⊢
    cases hfound : c.entries.find? (SignatureKey.ofRequest request app) with
    | none =>
      rw [hfound] at h
      exact hjoin c h
    | some signed =>
      rw [hfound] at h
      dsimp only at h ⊢
      split
      · rw [if_pos ‹_›] at h
        cases h
      · rw [if_neg ‹_›] at h
        exact hjoin _ h
  · rw [if_neg ‹_›] at h
    cases h

end SignatureCache

inductive Phase where
  | fresh
  /-- The signature cache has answered. -/
  | looked (progress : SignatureCache.Progress)
  | at (stage : AttemptStage)
  | ended (result : Except RelayError RelayResponse)

def AttemptProgress.phase : AttemptProgress → Phase
  | .waiting stage => .at stage
  | .done result => .ended result

namespace AttemptStage

def Unready (now : Nat) (id : ProcessId) (r : Relays ω) : AttemptStage → Prop
  | signing answer => answer.ready? now = none
  | sharing => (r.signatures.resume id).progress = .wait
  | queueing _ => r.limiter.lacks id = true
  | posting reply => reply.ready? now = none
  | validating verdict => verdict.ready? now = none

def lapse : AttemptStage → RelayError
  | queueing _ => .concurrencyLimit
  | _ => .timeout

end AttemptStage

namespace Attempt

/-- An attempt stops running when it has ended, or waits for something that has not come and may still
come before its deadline. -/
def AtRest (a : Attempt) (now : Nat) (id : ProcessId) (r : Relays ω) : AttemptProgress → Prop
  | .waiting stage => now < a.deadline ∧ stage.Unready now id r
  | .done _ => True

variable [Collaborators ω]

inductive Move (a : Attempt) (now : Nat) (id : ProcessId) : Relays ω × Phase → Relays ω × Phase → Prop
  | enter {r : Relays ω} (fallback : a.endpoint.isFallback = true) :
      Move a now id (r, .fresh) ({ r with limiter := r.limiter.request id }, .at (.queueing a.data))
  | refuse {r : Relays ω} {p : Phase} {e : RelayError} (early : p = .fresh ∨ p = .at .sharing)
      (bad : a.request? = .error e) :
      Move a now id (r, p) (r, .ended (.error e))
  | begin {r : Relays ω} {request : RelayRequest} {app : Application}
      (protocol : a.endpoint.isFallback = false) (good : a.request? = .ok (request, app)) :
      Move a now id (r, .fresh) (r.afterSignature (r.signatures.begin id request app),
        .looked (r.signatures.begin id request app).progress)
  | resume {r : Relays ω} {request : RelayRequest} {app : Application}
      (good : a.request? = .ok (request, app)) :
      Move a now id (r, .at .sharing) (r.afterSignature (r.signatures.resume id),
        .looked (r.signatures.resume id).progress)
  | share {r : Relays ω} : Move a now id (r, .looked .wait) (r, .at .sharing)
  | sign {r : Relays ω} {request : RelayRequest} {app : Application}
      (good : a.request? = .ok (request, app)) :
      Move a now id (r, .looked .compute)
        ({ r with outside := (Collaborators.sign now request app r.outside).2 },
          .at (.signing (Collaborators.sign now request app r.outside).1))
  | signed {r : Relays ω} {answer : Pending (Except SignerError SignedRelay)}
      {result : Except SignerError SignedRelay} (ready : answer.ready? now = some result) :
      Move a now id (r, .at (.signing answer))
        (r.afterSignature (r.signatures.finish id result), .looked (.done result))
  | unsigned {r : Relays ω} {e : SignerError} :
      Move a now id (r, .looked (.done (.error e))) (r, .ended (.error (.signing a.appAddress e)))
  | queue {r : Relays ω} {signed : SignedRelay} :
      Move a now id (r, .looked (.done (.ok signed)))
        ({ r with limiter := r.limiter.request id }, .at (.queueing signed.encode))
  | post {r : Relays ω} {body : Bytes} (holds : (r.limiter.take id).holds id = true) :
      Move a now id (r, .at (.queueing body))
        ({ r with
            limiter := r.limiter.take id
            outside := (Collaborators.post now a.url body (a.deadline - now) r.outside).2 },
          .at (.posting (Collaborators.post now a.url body (a.deadline - now) r.outside).1))
  | unposted {r : Relays ω} {reply : Pending (Except TransportError Bytes)} {e : TransportError}
      (ready : reply.ready? now = some (.error e)) :
      Move a now id (r, .at (.posting reply)) (r.release id, .ended (.error (.transport e)))
  | accept {r : Relays ω} {reply : Pending (Except TransportError Bytes)} {bytes : Bytes}
      (fallback : a.endpoint.isFallback = true) (ready : reply.ready? now = some (.ok bytes)) :
      Move a now id (r, .at (.posting reply))
        (r.release id, .ended (.ok ⟨a.endpoint.addr, bytes, 200⟩))
  | validate {r : Relays ω} {reply : Pending (Except TransportError Bytes)} {bytes : Bytes}
      (protocol : a.endpoint.isFallback = false) (ready : reply.ready? now = some (.ok bytes)) :
      Move a now id (r, .at (.posting reply))
        ({ r.release id with
            outside := (Collaborators.validate now a.endpoint.supplier bytes r.outside).2 },
          .at (.validating (Collaborators.validate now a.endpoint.supplier bytes r.outside).1))
  | invalid {r : Relays ω} {verdict : Pending (Except ChainError ValidatedRelay)} {e : ChainError}
      (ready : verdict.ready? now = some (.error e)) :
      Move a now id (r, .at (.validating verdict))
        (r, .ended (.error (.validation a.endpoint.addr e)))
  | valid {r : Relays ω} {verdict : Pending (Except ChainError ValidatedRelay)} {v : ValidatedRelay}
      (ready : verdict.ready? now = some (.ok v)) :
      Move a now id (r, .at (.validating verdict))
        (r, .ended (.ok ⟨a.endpoint.addr, v.payload, v.status⟩))
  /-- The deadline has come, and nothing else; the attempt gives back what it has. -/
  | lapse {r : Relays ω} {stage : AttemptStage} (due : a.deadline ≤ now)
      (unready : stage.Unready now id r) :
      Move a now id (r, .at stage) (drop id r stage, .ended (.error stage.lapse))

/-- The moves of one turn: from a phase to where the attempt comes to rest. -/
structure Turned (a : Attempt) (now : Nat) (id : ProcessId) (x : Relays ω × Phase)
    (s : Relays ω × AttemptProgress) : Prop where
  moves : Relation.ReflTransGen (a.Move now id) x (s.1, s.2.phase)
  rest : a.AtRest now id s.1 s.2

variable {a : Attempt} {now : Nat} {id : ProcessId} {r : Relays ω} {x y : Relays ω × Phase}
variable {s : Relays ω × AttemptProgress}

/-- What every move keeps is kept by a turn. -/
theorem Turned.keeps (h : a.Turned now id x s) (kept : Relays ω → Phase → Prop)
    (move : ∀ {r p r' p'}, a.Move now id (r, p) (r', p') → kept r p → kept r' p')
    (holds : kept x.1 x.2) : kept s.1 s.2.phase := by
  have hkept : ∀ y, Relation.ReflTransGen (a.Move now id) x y → kept y.1 y.2 := by
    intro y hmoves
    induction hmoves with
    | refl => exact holds
    | tail _ hmove ih => exact move hmove ih
  exact hkept _ h.moves

theorem Turned.after (move : a.Move now id x y) (h : a.Turned now id y s) : a.Turned now id x s :=
  ⟨.head move h.moves, h.rest⟩

theorem Turned.stays {stage : AttemptStage} (early : now < a.deadline)
    (unready : stage.Unready now id r) : a.Turned now id (r, .at stage) (r, .waiting stage) :=
  ⟨.refl, early, unready⟩

theorem Turned.ended (result : Except RelayError RelayResponse) :
    a.Turned now id (r, .ended result) (r, .done result) :=
  ⟨.refl, trivial⟩

omit [Collaborators ω] in
theorem isOver_iff : a.isOver now = true ↔ a.deadline ≤ now := decide_eq_true_iff

/-- What has not come is given up at the deadline, and waited for before. -/
theorem Turned.waits {stage : AttemptStage} (unready : stage.Unready now id r) :
    a.Turned now id (r, .at stage)
      (if a.isOver now then (drop id r stage, .done (.error stage.lapse)) else (r, .waiting stage)) := by
  split
  · exact .after (.lapse (isOver_iff.1 ‹_›) unready) (.ended _)
  · exact .stays (Nat.lt_of_not_le fun due => ‹¬ _› (isOver_iff.2 due)) unready

theorem awaitVerdict_turned (verdict : Pending (Except ChainError ValidatedRelay)) :
    a.Turned now id (r, .at (.validating verdict)) (a.awaitVerdict now r verdict) := by
  unfold awaitVerdict
  cases hready : verdict.ready? now with
  | none => exact .waits hready
  | some result =>
    cases result with
    | ok v => exact .after (.valid hready) (.ended _)
    | error e => exact .after (.invalid hready) (.ended _)

theorem awaitReply_turned (reply : Pending (Except TransportError Bytes)) :
    a.Turned now id (r, .at (.posting reply)) (a.awaitReply now id r reply) := by
  unfold awaitReply
  cases hready : reply.ready? now with
  | none => exact .waits hready
  | some result =>
    cases result with
    | error e => exact .after (.unposted hready) (.ended _)
    | ok bytes =>
      dsimp only
      split
      · exact .after (.accept ‹_› hready) (.ended _)
      · exact .after (.validate (Bool.eq_false_iff.2 ‹_›) hready) (awaitVerdict_turned _)

theorem awaitPermit_turned (body : Bytes) :
    a.Turned now id (r, .at (.queueing body)) (a.awaitPermit now id body r) := by
  unfold awaitPermit
  dsimp only
  split
  · exact .after (.post ‹_›) (awaitReply_turned _)
  · rename_i hholds
    obtain ⟨htake, hlacks⟩ := Limiter.take_of_not_holds (Bool.eq_false_iff.2 hholds)
    rw [htake]
    exact .waits hlacks

theorem afterSigning_turned (result : Except SignerError SignedRelay) :
    a.Turned now id (r, .looked (.done result)) (a.afterSigning now id r result) := by
  cases result with
  | ok signed => exact .after .queue (awaitPermit_turned _)
  | error e => exact .after .unsigned (.ended _)

theorem awaitSignature_turned (answer : Pending (Except SignerError SignedRelay)) :
    a.Turned now id (r, .at (.signing answer)) (a.awaitSignature now id r answer) := by
  unfold awaitSignature
  cases hready : answer.ready? now with
  | none => exact .waits hready
  | some result => exact .after (.signed hready) (afterSigning_turned _)

theorem proceed_turned {request : RelayRequest} {app : Application} {step : SignatureCache.Step}
    (good : a.request? = .ok (request, app))
    (hwait : step.progress = .wait → (step.cache.resume id).progress = .wait) :
    a.Turned now id (r.afterSignature step, .looked step.progress)
      (a.proceed now id request app r step) := by
  unfold proceed
  cases hprogress : step.progress with
  | done result => exact afterSigning_turned result
  | compute => exact .after (.sign good) (awaitSignature_turned _)
  | wait => exact .after .share (.waits (hwait hprogress))

theorem start_turned (a : Attempt) (now : Nat) (id : ProcessId) (r : Relays ω) :
    a.Turned now id (r, .fresh) (a.start now id r) := by
  unfold start
  split
  · exact .after (.enter ‹_›) (awaitPermit_turned _)
  · cases hrequest : a.request? with
    | error e => exact .after (.refuse (.inl rfl) hrequest) (.ended _)
    | ok p =>
      obtain ⟨request, app⟩ := p
      exact .after (.begin (Bool.eq_false_iff.2 ‹_›) hrequest)
        (proceed_turned hrequest SignatureCache.begin_of_wait)

theorem resume_turned (a : Attempt) (now : Nat) (id : ProcessId) (r : Relays ω)
    (stage : AttemptStage) : a.Turned now id (r, .at stage) (a.resume now id r stage) := by
  cases stage with
  | signing answer => exact awaitSignature_turned answer
  | queueing body => exact awaitPermit_turned body
  | posting reply => exact awaitReply_turned reply
  | validating verdict => exact awaitVerdict_turned verdict
  | sharing =>
    unfold resume
    cases hrequest : a.request? with
    | error e => exact .after (.refuse (.inr rfl) hrequest) (.ended _)
    | ok p =>
      obtain ⟨request, app⟩ := p
      refine .after (.resume hrequest) (proceed_turned hrequest fun hwait => ?_)
      rw [SignatureCache.resume_of_wait hwait, hwait]

end Attempt
end RelayGateway
