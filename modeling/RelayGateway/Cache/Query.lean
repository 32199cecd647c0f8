import RelayGateway.Cache.SessionCache

/-! # Queries past the snapshot

Sessions, applications and public keys that the snapshot does not hold are looked up on the chain. A
session that comes without its application, or whose application has no public key, is completed
before it is handed out; a failure to complete it is the failure of the query.
-/
namespace RelayGateway

inductive QueryStage where
  | app (address : String) (wait : LookupWait Application)
  | key (address : String) (wait : LookupWait String)
  | session (service : ServiceId) (appAddress : String)
      (answer : Pending (Except ChainError Session)) (deadline : Nat)
  /-- Completing a session: the application is being looked up. -/
  | sessionApp (session : Session) (wait : LookupWait Application)
  /-- Completing a session: the public key of its application is being looked up. -/
  | sessionKey (session : Session) (app : Application) (wait : LookupWait String)

inductive QueryAnswer where
  | app (app : Application)
  | key (key : String)
  | session (session : Session)
deriving Inhabited

inductive QueryProgress where
  | waiting (stage : QueryStage)
  | done (result : Except CacheError QueryAnswer)

namespace Query
variable {ω : Type} [Collaborators ω]

def takeApps (v : ChainView ω) (s : LookupStep ω Application) : ChainView ω :=
  { v with cache := { v.cache with appLookups := s.lookups }, outside := s.outside,
           woken := v.woken ++ s.woken }

def takeKeys (v : ChainView ω) (s : LookupStep ω String) : ChainView ω :=
  { v with cache := { v.cache with publicKeys := s.lookups }, outside := s.outside,
           woken := v.woken ++ s.woken }

def startApp (now : Nat) (id : ProcessId) (address : String) (v : ChainView ω) :
    LookupStep ω Application :=
  v.cache.appLookups.start now id v.cache.config.fetchTimeout address
    (Collaborators.fetchApp now address) v.outside

def startKey (now : Nat) (id : ProcessId) (address : String) (v : ChainView ω) :
    LookupStep ω String :=
  v.cache.publicKeys.start now id v.cache.config.fetchTimeout address
    (Collaborators.accountKey now address) v.outside

/-! ## Applications and public keys -/

def afterApp (address : String) (v : ChainView ω) (s : LookupStep ω Application) :
    ChainView ω × QueryProgress :=
  match s.progress with
  | .waiting wait => (takeApps v s, .waiting (.app address wait))
  | .done (.ok app) => (takeApps v s, .done (.ok (.app app)))
  | .done (.error e) => (takeApps v s, .done (.error (.appLookup address e)))

def getApp (now : Nat) (id : ProcessId) (address : String) (v : ChainView ω) :
    ChainView ω × QueryProgress :=
  match v.cache.snapshot.app? address with
  | some app => (v, .done (.ok (.app app)))
  | none => afterApp address v (startApp now id address v)

def afterKey (address : String) (v : ChainView ω) (s : LookupStep ω String) :
    ChainView ω × QueryProgress :=
  match s.progress with
  | .waiting wait => (takeKeys v s, .waiting (.key address wait))
  | .done (.ok key) => (takeKeys v s, .done (.ok (.key key)))
  | .done (.error e) => (takeKeys v s, .done (.error (.accountLookup address e)))

def getKey (now : Nat) (id : ProcessId) (address : String) (v : ChainView ω) :
    ChainView ω × QueryProgress :=
  afterKey address v (startKey now id address v)

/-! ## Sessions -/

def deliver (session : Session) (v : ChainView ω) : ChainView ω × QueryProgress :=
  (v.noteSession session.header, .done (.ok (.session session)))

def afterSessionKey (session : Session) (app : Application) (v : ChainView ω)
    (s : LookupStep ω String) : ChainView ω × QueryProgress :=
  match s.progress with
  | .waiting wait => (takeKeys v s, .waiting (.sessionKey session app wait))
  | .done (.ok key) =>
    deliver { session with application := some { app with publicKey := key } } (takeKeys v s)
  | .done (.error e) => (takeKeys v s, .done (.error (.accountLookup app.address e)))

def completeKey (now : Nat) (id : ProcessId) (session : Session) (app : Application)
    (v : ChainView ω) : ChainView ω × QueryProgress :=
  if app.publicKey = "" then afterSessionKey session app v (startKey now id app.address v)
  else deliver { session with application := some app } v

def afterSessionApp (now : Nat) (id : ProcessId) (session : Session) (v : ChainView ω)
    (s : LookupStep ω Application) : ChainView ω × QueryProgress :=
  match s.progress with
  | .waiting wait => (takeApps v s, .waiting (.sessionApp session wait))
  | .done (.ok app) => completeKey now id session app (takeApps v s)
  | .done (.error e) => (takeApps v s, .done (.error (.appLookup session.appAddress e)))

def complete (now : Nat) (id : ProcessId) (session : Session) (v : ChainView ω) :
    ChainView ω × QueryProgress :=
  match session.application with
  | some app => completeKey now id session app v
  | none =>
    match v.cache.snapshot.app? session.appAddress with
    | some app => completeKey now id session app v
    | none => afterSessionApp now id session v (startApp now id session.appAddress v)

def awaitSession (now : Nat) (id : ProcessId) (service : ServiceId) (appAddress : String)
    (v : ChainView ω) (answer : Pending (Except ChainError Session)) (deadline : Nat) :
    ChainView ω × QueryProgress :=
  match answer.ready? now with
  | some (.ok session) =>
    complete now id session { v with outside := Collaborators.sessionClosed v.outside }
  | some (.error e) =>
    ({ v with outside := Collaborators.sessionClosed v.outside },
      .done (.error (.sessionLookup service appAddress e)))
  | none =>
    if deadline ≤ now then
      ({ v with outside := Collaborators.sessionClosed v.outside },
        .done (.error (.timeout v.cache.config.fetchTimeoutSeconds)))
    else (v, .waiting (.session service appAddress answer deadline))

/-- A session of the snapshot is handed out as it is. -/
def getSession (now : Nat) (id : ProcessId) (service : ServiceId) (appAddress : String)
    (v : ChainView ω) : ChainView ω × QueryProgress :=
  match v.cache.snapshot.session? service appAddress with
  | some session => (v, .done (.ok (.session session)))
  | none =>
    let (answer, outside) := Collaborators.fetchSession now service appAddress v.outside
    awaitSession now id service appAddress { v with outside } answer
      (now + v.cache.config.fetchTimeout)

/-! ## Going on -/

def resume (now : Nat) (id : ProcessId) (v : ChainView ω) (stage : QueryStage) :
    ChainView ω × QueryProgress :=
  match stage with
  | .app address wait => afterApp address v (v.cache.appLookups.resume now id address v.outside wait)
  | .key address wait => afterKey address v (v.cache.publicKeys.resume now id address v.outside wait)
  | .session service appAddress answer deadline =>
    awaitSession now id service appAddress v answer deadline
  | .sessionApp session wait =>
    afterSessionApp now id session v
      (v.cache.appLookups.resume now id session.appAddress v.outside wait)
  | .sessionKey session app wait =>
    afterSessionKey session app v (v.cache.publicKeys.resume now id app.address v.outside wait)

def alarms : QueryStage → List Nat
  | .app _ wait => wait.alarms
  | .key _ wait => wait.alarms
  | .session _ _ answer deadline => answer.due.toList ++ [deadline]
  | .sessionApp _ wait => wait.alarms
  | .sessionKey _ _ wait => wait.alarms

end Query
end RelayGateway
