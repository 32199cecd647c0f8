import RelayGateway.Cache.SessionCache

/-! # Refreshing the snapshot

A refresh lists the applications, looks up the session of every pair of service and application with
a bounded number of lookups at a time, and publishes a new snapshot made of what it has fetched. It
is skipped, and the old snapshot stays, when there are no applications or when every lookup fails.
-/
namespace RelayGateway

structure RefreshStats where
  apps : Nat
  sessionsAttempted : Nat
  sessionsFetched : Nat
  endpoints : Nat
  duplicateEndpoints : Nat
deriving DecidableEq, Inhabited

structure RunningJob where
  job : SessionJob
  answer : Pending (Except ChainError Session)
  deadline : Nat

/-- How a lookup stands: failed and overdue lookups leave nothing behind. -/
inductive JobOutcome where
  | running
  | fetched (session : Session)
  | failed

def RunningJob.outcome (j : RunningJob) (now : Nat) : JobOutcome :=
  match j.answer.ready? now with
  | some (.ok s) => .fetched s
  | some (.error _) => .failed
  | none => if j.deadline ≤ now then .failed else .running

/-- A lookup brings what the chain has answered, and brings it as soon as it is looked at after that. -/
theorem RunningJob.outcome_eq_fetched_iff {j : RunningJob} {now : Nat} {session : Session} :
    j.outcome now = .fetched session ↔ j.answer.ready? now = some (.ok session) := by
  unfold outcome
  cases j.answer.ready? now with
  | none => simp only [reduceCtorEq, iff_false]; split <;> exact nofun
  | some result =>
    cases result with
    | error e => simp
    | ok s => simp

structure SessionRound where
  waiting : List SessionJob
  running : List RunningJob
  fetched : List (SessionJob × Session)

namespace SessionRound
variable {ω : Type} [Collaborators ω]

/-- Takes a lookup in: among the running ones, or its session among the fetched. -/
def settleJob (now : Nat) (s : SessionRound × ω) (j : RunningJob) : SessionRound × ω :=
  match j.outcome now with
  | .running => ({ s.1 with running := s.1.running ++ [j] }, s.2)
  | .fetched session =>
    ({ s.1 with fetched := s.1.fetched ++ [(j.job, session)] }, Collaborators.sessionClosed s.2)
  | .failed => (s.1, Collaborators.sessionClosed s.2)

def collect (now : Nat) (r : SessionRound) (outside : ω) : SessionRound × ω :=
  r.running.foldl (settleJob now) ({ r with running := [] }, outside)

def launch (now timeout workers : Nat) : List SessionJob → SessionRound × ω → SessionRound × ω
  | [], s => s
  | job :: rest, s =>
    if s.1.running.length < workers then
      let (answer, outside) := Collaborators.fetchSession now job.serviceId job.appAddress s.2
      launch now timeout workers rest (settleJob now (s.1, outside) ⟨job, answer, now + timeout⟩)
    else ({ s.1 with waiting := job :: rest }, s.2)

def advance (now timeout workers : Nat) (r : SessionRound) (outside : ω) : SessionRound × ω :=
  let (r, outside) := r.collect now outside
  launch now timeout workers r.waiting ({ r with waiting := [] }, outside)

def alarms (r : SessionRound) : List Nat :=
  r.running.flatMap fun j => j.answer.due.toList ++ [j.deadline]

end SessionRound

inductive RefreshStage where
  | listing (answer : Pending (Except ChainError (List Application))) (deadline : Nat)
  | gathering (apps : List Application) (round : SessionRound)

inductive RefreshProgress where
  | waiting (stage : RefreshStage)
  | done (result : Except CacheError RefreshStats)

namespace Refresh
variable {ω : Type}

def statsOf (apps : List Application) (a : Snapshot.Assembly) : RefreshStats :=
  { apps := apps.length, sessionsAttempted := (SessionJob.ofApps apps).length,
    sessionsFetched := a.sessions.size, endpoints := Snapshot.endpointCount a.endpoints,
    duplicateEndpoints := a.duplicates }

def publish (now : Nat) (apps : List Application) (fetched : List (SessionJob × Session))
    (v : ChainView ω) : ChainView ω :=
  let a := Snapshot.assemble fetched
  let v := (Snapshot.inOrder fetched).foldl (fun v e => v.noteSession e.2.header) v
  let snapshot : Snapshot := ⟨apps, a.sessions, a.endpoints, some (Timestamp.ofMillis now)⟩
  { v with cache := { v.cache with
      snapshot, sessionsSeen := v.cache.sessionsSeen || !a.sessions.isEmpty } }

def afterGathering (now : Nat) (apps : List Application) (v : ChainView ω) (r : SessionRound) :
    ChainView ω × RefreshProgress :=
  if !r.running.isEmpty || !r.waiting.isEmpty then (v, .waiting (.gathering apps r))
  else if r.fetched.isEmpty && !(SessionJob.ofApps apps).isEmpty then
    (v, .done (.error (.noSessions (SessionJob.ofApps apps).length)))
  else (publish now apps r.fetched v, .done (.ok (statsOf apps (Snapshot.assemble r.fetched))))

variable [Collaborators ω]

def gather (now : Nat) (apps : List Application) (v : ChainView ω) (r : SessionRound) :
    ChainView ω × RefreshProgress :=
  let config := v.cache.config
  let (r, outside) := r.advance now config.fetchTimeout config.workers v.outside
  afterGathering now apps { v with outside } r

def afterListing (now : Nat) (v : ChainView ω) (result : Except ChainError (List Application)) :
    ChainView ω × RefreshProgress :=
  match result with
  | .error e => (v, .done (.error (.appFetch e)))
  | .ok apps =>
    if apps.isEmpty then (v, .done (.error .noApplications))
    else
      let v := { v with cache := { v.cache with appsSeen := true } }
      gather now apps v ⟨SessionJob.ofApps apps, [], []⟩

def awaitListing (now : Nat) (v : ChainView ω) (answer : Pending (Except ChainError (List Application)))
    (deadline : Nat) : ChainView ω × RefreshProgress :=
  match answer.ready? now with
  | some result => afterListing now v result
  | none =>
    if deadline ≤ now then (v, .done (.error (.timeout v.cache.config.fetchTimeoutSeconds)))
    else (v, .waiting (.listing answer deadline))

def start (now : Nat) (v : ChainView ω) : ChainView ω × RefreshProgress :=
  let (answer, outside) := Collaborators.fetchApps now v.outside
  awaitListing now { v with outside } answer (now + v.cache.config.fetchTimeout)

def resume (now : Nat) (v : ChainView ω) (stage : RefreshStage) : ChainView ω × RefreshProgress :=
  match stage with
  | .listing answer deadline => awaitListing now v answer deadline
  | .gathering apps r => gather now apps v r

def alarms (stage : RefreshStage) : List Nat :=
  match stage with
  | .listing answer deadline => answer.due.toList ++ [deadline]
  | .gathering _ r => r.alarms

end Refresh
end RelayGateway
