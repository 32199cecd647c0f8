import RelayGateway.Collaborators
import RelayGateway.Limiter
import RelayGateway.Relay.Observation
import RelayGateway.Signing.Cache

/-! # Attempts

One attempt sends one payload to one endpoint, under one deadline. A protocol endpoint is sent a
signed relay: the signature comes from the cache, a permit is held while the relay is posted, and the
reply is validated. A fallback endpoint is sent the payload as it is, under a permit.

An attempt runs until it has to wait; `stage` says what it then waits for. Whatever it waits for wins
over a deadline at the same moment.
-/
namespace RelayGateway

/-- What all attempts share: the limiter, the signature cache and the collaborators. `woken` are the
processes that can go on because of what has been done. -/
structure Relays (ω : Type) where
  limiter : Limiter
  signatures : SignatureCache
  outside : ω
  woken : List ProcessId

namespace Relays
variable {ω : Type}

def release (r : Relays ω) (id : ProcessId) : Relays ω :=
  let (limiter, woken) := r.limiter.release id
  { r with limiter, woken := r.woken ++ woken }

def withdraw (r : Relays ω) (id : ProcessId) : Relays ω :=
  let (limiter, woken) := r.limiter.withdraw id
  { r with limiter, woken := r.woken ++ woken }

def cancelSignature (r : Relays ω) (id : ProcessId) : Relays ω :=
  let (signatures, woken) := r.signatures.cancel id
  { r with signatures, woken := r.woken ++ woken }

def afterSignature (r : Relays ω) (s : SignatureCache.Step) : Relays ω :=
  { r with signatures := s.cache, woken := r.woken ++ s.woken }

end Relays

structure Attempt where
  endpoint : Endpoint
  url : String
  data : Bytes
  startedAt : Nat
  deadline : Nat

inductive AttemptStage where
  /-- Its own signature. -/
  | signing (answer : Pending (Except SignerError SignedRelay))
  /-- A signature that another attempt is computing. -/
  | sharing
  /-- A permit to post `body`. -/
  | queueing (body : Bytes)
  | posting (reply : Pending (Except TransportError Bytes))
  | validating (verdict : Pending (Except ChainError ValidatedRelay))

inductive AttemptProgress where
  | waiting (stage : AttemptStage)
  | done (result : Except RelayError RelayResponse)

namespace Attempt
variable {ω : Type}

def isOver (a : Attempt) (now : Nat) : Bool := a.deadline ≤ now

def awaitVerdict (a : Attempt) (now : Nat) (r : Relays ω)
    (verdict : Pending (Except ChainError ValidatedRelay)) : Relays ω × AttemptProgress :=
  match verdict.ready? now with
  | some (.ok v) => (r, .done (.ok ⟨a.endpoint.addr, v.payload, v.status⟩))
  | some (.error e) => (r, .done (.error (.validation a.endpoint.addr e)))
  | none => if a.isOver now then (r, .done (.error .timeout)) else (r, .waiting (.validating verdict))

variable [Collaborators ω]

def validate (a : Attempt) (now : Nat) (reply : Bytes) (r : Relays ω) : Relays ω × AttemptProgress :=
  let (verdict, outside) := Collaborators.validate now a.endpoint.supplier reply r.outside
  a.awaitVerdict now { r with outside } verdict

/-- The permit is given back as soon as the post has ended. -/
def awaitReply (a : Attempt) (now : Nat) (id : ProcessId) (r : Relays ω)
    (reply : Pending (Except TransportError Bytes)) : Relays ω × AttemptProgress :=
  match reply.ready? now with
  | some (.ok bytes) =>
    if a.endpoint.isFallback then (r.release id, .done (.ok ⟨a.endpoint.addr, bytes, 200⟩))
    else a.validate now bytes (r.release id)
  | some (.error e) => (r.release id, .done (.error (.transport e)))
  | none =>
    if a.isOver now then (r.release id, .done (.error .timeout)) else (r, .waiting (.posting reply))

def post (a : Attempt) (now : Nat) (id : ProcessId) (body : Bytes) (r : Relays ω) :
    Relays ω × AttemptProgress :=
  let (reply, outside) := Collaborators.post now a.url body (a.deadline - now) r.outside
  a.awaitReply now id { r with outside } reply

def awaitPermit (a : Attempt) (now : Nat) (id : ProcessId) (body : Bytes) (r : Relays ω) :
    Relays ω × AttemptProgress :=
  let r := { r with limiter := r.limiter.take id }
  if r.limiter.holds id then a.post now id body r
  else if a.isOver now then (r.withdraw id, .done (.error .concurrencyLimit))
  else (r, .waiting (.queueing body))

def enter (a : Attempt) (now : Nat) (id : ProcessId) (body : Bytes) (r : Relays ω) :
    Relays ω × AttemptProgress :=
  a.awaitPermit now id body { r with limiter := r.limiter.request id }

def appAddress (a : Attempt) : String :=
  match a.endpoint.session.bind Session.application with
  | some app => app.address
  | none => ""

def afterSigning (a : Attempt) (now : Nat) (id : ProcessId) (r : Relays ω)
    (result : Except SignerError SignedRelay) : Relays ω × AttemptProgress :=
  match result with
  | .ok signed => a.enter now id signed.encode r
  | .error e => (r, .done (.error (.signing a.appAddress e)))

def awaitSignature (a : Attempt) (now : Nat) (id : ProcessId) (r : Relays ω)
    (answer : Pending (Except SignerError SignedRelay)) : Relays ω × AttemptProgress :=
  match answer.ready? now with
  | some result => a.afterSigning now id (r.afterSignature (r.signatures.finish id result)) result
  | none =>
    if a.isOver now then (r.cancelSignature id, .done (.error .timeout))
    else (r, .waiting (.signing answer))

def proceed (a : Attempt) (now : Nat) (id : ProcessId) (request : RelayRequest) (app : Application)
    (r : Relays ω) (s : SignatureCache.Step) : Relays ω × AttemptProgress :=
  let r := r.afterSignature s
  match s.progress with
  | .done result => a.afterSigning now id r result
  | .compute =>
    let (answer, outside) := Collaborators.sign now request app r.outside
    a.awaitSignature now id { r with outside } answer
  | .wait =>
    if a.isOver now then (r.cancelSignature id, .done (.error .timeout)) else (r, .waiting .sharing)

def request? (a : Attempt) : Except RelayError (RelayRequest × Application) :=
  match a.endpoint.session with
  | none => .error (.missingApplication "")
  | some session =>
    match session.application with
    | none => .error (.missingApplication session.id)
    | some app =>
      let request : RelayRequest := ⟨session.header, a.endpoint.supplier, a.data⟩
      match request.invalid? with
      | some e => .error (.signing app.address e)
      | none => .ok (request, app)

def start (a : Attempt) (now : Nat) (id : ProcessId) (r : Relays ω) : Relays ω × AttemptProgress :=
  if a.endpoint.isFallback then a.enter now id a.data r
  else
    match a.request? with
    | .error e => (r, .done (.error e))
    | .ok (request, app) => a.proceed now id request app r (r.signatures.begin id request app)

def resume (a : Attempt) (now : Nat) (id : ProcessId) (r : Relays ω) (stage : AttemptStage) :
    Relays ω × AttemptProgress :=
  match stage with
  | .signing answer => a.awaitSignature now id r answer
  | .sharing =>
    match a.request? with
    | .error e => (r, .done (.error e))
    | .ok (request, app) => a.proceed now id request app r (r.signatures.resume id)
  | .queueing body => a.awaitPermit now id body r
  | .posting reply => a.awaitReply now id r reply
  | .validating verdict => a.awaitVerdict now r verdict

def drop (id : ProcessId) (r : Relays ω) (stage : AttemptStage) : Relays ω :=
  match stage with
  | .signing _ => r.cancelSignature id
  | .sharing => r.cancelSignature id
  | .queueing _ => r.withdraw id
  | .posting _ => r.release id
  | .validating _ => r

def alarms (a : Attempt) (stage : AttemptStage) : List Nat :=
  let due :=
    match stage with
    | .signing answer => answer.due
    | .posting reply => reply.due
    | .validating verdict => verdict.due
    | _ => none
  due.toList ++ [a.deadline]

def observation (a : Attempt) (now : Nat) (result : Except RelayError RelayResponse) :
    EndpointObservation :=
  let asked := Timestamp.ofMillis a.startedAt
  let answered := Timestamp.ofMillis now
  match result with
  | .ok response =>
    .success a.endpoint a.url asked answered response.status response.bytes.length
  | .error e => .failure a.endpoint a.url asked answered e.kind e.message e.sanction

end Attempt
end RelayGateway
