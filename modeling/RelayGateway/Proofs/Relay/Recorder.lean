import RelayGateway.Proofs.Relay.Forgetting
import RelayGateway.Proofs.Relay.Moves

/-! # What attempts ask of the collaborators

A recorder passes every call on and keeps those that carry relays. It changes nothing else: what
attempts and dispatches do with a recorder is what they do without it. An attempt asks for the
signature of its own request, posts to its own URL, and has replies of its own supplier validated.
-/
namespace RelayGateway

inductive Call where
  | sign (request : RelayRequest) (app : Application)
  | post (url : String) (body : Bytes) (timeout : Nat)
  | validate (supplier : String) (reply : Bytes)

def Call.postedUrl? : Call → Option String
  | post url _ _ => some url
  | _ => none

structure Recorder (ω : Type) where
  inner : ω
  calls : List Call

variable {ω : Type}

namespace Recorder

def pass {α : Type} (calls : List Call) (f : ω → Pending α × ω) (x : Recorder ω) :
    Pending α × Recorder ω :=
  let (answer, inner) := f x.inner
  (answer, ⟨inner, x.calls ++ calls⟩)

instance [Collaborators ω] : Collaborators (Recorder ω) where
  fetchApps now := pass [] (Collaborators.fetchApps now)
  fetchApp now address := pass [] (Collaborators.fetchApp now address)
  fetchSession now service appAddress := pass [] (Collaborators.fetchSession now service appAddress)
  sessionClosed x := ⟨Collaborators.sessionClosed x.inner, x.calls⟩
  blockHeight now := pass [] (Collaborators.blockHeight now)
  accountKey now address := pass [] (Collaborators.accountKey now address)
  validate now supplier reply :=
    pass [.validate supplier reply] (Collaborators.validate now supplier reply)
  isHealthy x := Collaborators.isHealthy x.inner
  sign now request app := pass [.sign request app] (Collaborators.sign now request app)
  post now url body timeout := pass [.post url body timeout] (Collaborators.post now url body timeout)

theorem forgets [Collaborators ω] : Collaborators.Forgets (inner : Recorder ω → ω) where
  sign _ _ _ _ := rfl
  post _ _ _ _ _ := rfl
  validate _ _ _ _ := rfl

end Recorder

def Relays.plain (r : Relays (Recorder ω)) : Relays ω :=
  ⟨r.limiter, r.signatures, r.outside.inner, r.woken⟩

namespace Attempt
variable {a : Attempt} {r r' : Relays (Recorder ω)} {now : Nat} {id : ProcessId} {p p' : Phase}

def Makes (a : Attempt) : Call → Prop
  | .sign request app => a.request? = .ok (request, app)
  | .post url _ _ => url = a.url
  | .validate supplier _ => supplier = a.endpoint.supplier

def Calls (a : Attempt) (r r' : Relays (Recorder ω)) : Prop :=
  ∃ calls, r'.outside.calls = r.outside.calls ++ calls ∧ ∀ call ∈ calls, a.Makes call

theorem Calls.none (r' : Relays (Recorder ω)) (h : r'.outside = r.outside) : a.Calls r r' :=
  ⟨[], by rw [h, List.append_nil], nofun⟩

theorem Calls.one (call : Call) (h : r'.outside.calls = r.outside.calls ++ [call])
    (hmakes : a.Makes call) : a.Calls r r' := by
  refine ⟨[call], h, ?_⟩
  intro call' hmem
  rw [List.mem_singleton.1 hmem]
  exact hmakes

theorem Calls.trans {r'' : Relays (Recorder ω)} (h : a.Calls r r') (h' : a.Calls r' r'') :
    a.Calls r r'' := by
  obtain ⟨calls, heq, hmakes⟩ := h
  obtain ⟨calls', heq', hmakes'⟩ := h'
  refine ⟨calls ++ calls', by rw [heq', heq, List.append_assoc], ?_⟩
  intro call hmem
  rcases List.mem_append.1 hmem with hmem | hmem
  · exact hmakes call hmem
  · exact hmakes' call hmem

/-- A step `s` with a recorder does what the step `t` does without, and the calls are the attempt's. -/
structure Recorded (a : Attempt) (r : Relays (Recorder ω)) (s : Relays (Recorder ω) × AttemptProgress)
    (t : Relays ω × AttemptProgress) : Prop where
  same : t = (s.1.plain, s.2)
  calls : a.Calls r s.1

variable [Collaborators ω]

theorem Move.calls (move : a.Move now id (r, p) (r', p')) : a.Calls r r' := by
  cases move with
  | sign good => exact .one (.sign _ _) rfl good
  | post holds => exact .one (.post _ _ _) rfl rfl
  | validate protocol ready => exact .one (.validate _ _) rfl rfl
  | lapse due unready => exact .none _ (drop_outside ..)
  | _ => exact .none _ rfl

theorem Turned.calls {s : Relays (Recorder ω) × AttemptProgress} (h : a.Turned now id (r, p) s) :
    a.Calls r s.1 :=
  h.keeps (fun r' _ => a.Calls r r') (fun move calls => calls.trans move.calls) (.none r rfl)

theorem start_recorded (a : Attempt) (now : Nat) (id : ProcessId) (r : Relays (Recorder ω)) :
    a.Recorded r (a.start now id r) (a.start now id r.plain) :=
  ⟨start_map Recorder.forgets a now id r, (a.start_turned now id r).calls⟩

theorem resume_recorded (a : Attempt) (now : Nat) (id : ProcessId) (r : Relays (Recorder ω))
    (stage : AttemptStage) :
    a.Recorded r (a.resume now id r stage) (a.resume now id r.plain stage) :=
  ⟨resume_map Recorder.forgets a now id r stage, (a.resume_turned now id r stage).calls⟩

end Attempt

/-! ## Dispatches

What becomes of a context is told of dispatches with a recorder, by the calls of which every post is traced to
an endpoint. It is so of every dispatch: one without a recorder begins, goes on and is dropped in the same
way.
-/

namespace Dispatch
variable [Collaborators ω]

def plain (s : RequestContext × Relays (Recorder ω) × DispatchProgress) :
    RequestContext × Relays ω × DispatchProgress :=
  (s.1, s.2.1.plain, s.2.2)

theorem begin_plain (config : RelayConfig) (now : Nat) (id : ProcessId) (payload : RelayPayload)
    (c : RequestContext) (r : Relays (Recorder ω)) :
    begin config now id payload c r.plain = plain (begin config now id payload c r) :=
  begin_map Recorder.forgets config now id payload c r

theorem resume_plain (now : Nat) (id : ProcessId) (d : Dispatch) (c : RequestContext)
    (r : Relays (Recorder ω)) : d.resume now id c r.plain = plain (d.resume now id c r) :=
  resume_map Recorder.forgets now id d c r

omit [Collaborators ω] in
theorem drop_plain (id : ProcessId) (d : Dispatch) (r : Relays (Recorder ω)) :
    d.drop id r.plain = (d.drop id r).plain :=
  Attempt.drop_map Recorder.inner id r d.stage

end Dispatch
end RelayGateway
