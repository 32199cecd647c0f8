import RelayGateway.Collaborators

/-! # Scripted collaborators

Collaborators that follow a script, for trying a gateway out: every call is counted, answers what the
script says at that moment, and takes as long as the script says.
-/
namespace RelayGateway

structure ScriptedSession where
  service : ServiceId
  app : String
  session : Option Session
  failure : Option ChainError
  delay : Option Nat
deriving Inhabited

structure ChainScript where
  apps : List Application
  extraApps : List Application
  appsFailure : Option ChainError
  appsDelay : Nat
  appFailure : Option ChainError
  appDelay : Nat
  sessions : List ScriptedSession
  sessionDelay : Nat
  height : Nat
  heightFailure : Option ChainError
  heightDelay : Nat
  validateFailure : Option ChainError
  validateDelay : Nat
  validateStatus : Nat
  validatePayload : Option Bytes
  keys : List (String × String)
  keyFailure : Option ChainError
  keyDelay : Nat
  healthy : Bool

instance : Inhabited ChainScript :=
  ⟨[], [], none, 0, none, 0, [], 0, 0, none, 0, none, 0, 200, none, [], none, 0, true⟩

/-- What is written over the fields of a request before it is signed. -/
structure Tampering where
  sessionId : Option String
  supplier : Option String
  appAddress : Option String
  payload : Option Bytes
deriving Inhabited

def Tampering.apply (t : Tampering) (r : RelayRequest) : RelayRequest :=
  { header := { r.header with sessionId := t.sessionId.getD r.header.sessionId,
                              appAddress := t.appAddress.getD r.header.appAddress },
    supplier := t.supplier.getD r.supplier, payload := t.payload.getD r.payload }

structure SignerScript where
  delay : Nat
  failure : Option SignerError
  tampering : Tampering

instance : Inhabited SignerScript := ⟨0, none, default⟩

/-- How posts to URLs with a certain beginning are answered; with the posted body by default. -/
structure TransportRule where
  urlStart : String
  delay : Nat
  failure : Option TransportError
  reply : Option Bytes
deriving Inhabited

structure CallCounts where
  fetchApps : Nat
  getApp : Nat
  getSession : Nat
  height : Nat
  key : Nat
  validate : Nat
  sign : Nat
  /-- The most session lookups that were ever in progress at once. -/
  maxActiveSessions : Nat
deriving Inhabited

structure LoggedPost where
  url : String
  body : Bytes
  timeout : Nat

structure Script where
  chain : ChainScript
  signer : SignerScript
  transport : List TransportRule
  counts : CallCounts
  activeSessions : Nat
  /-- The posts since the log was last read, in order. -/
  posts : List LoggedPost

instance : Inhabited Script := ⟨default, default, [], default, 0, []⟩

namespace Script

def orFail {ε α : Type} (failure : Option ε) (answer : Except ε α) : Except ε α :=
  match failure with
  | some e => .error e
  | none => answer

def orNotFound {α : Type} (found : Option α) (what : String) : Except ChainError α :=
  match found with
  | some a => .ok a
  | none => .error (.notFound what)

def fetchApps (now : Nat) (s : Script) : Pending (Except ChainError (List Application)) × Script :=
  (.after now s.chain.appsDelay (orFail s.chain.appsFailure (.ok s.chain.apps)),
    { s with counts := { s.counts with fetchApps := s.counts.fetchApps + 1 } })

def fetchApp (now : Nat) (address : String) (s : Script) :
    Pending (Except ChainError Application) × Script :=
  let found := (s.chain.apps ++ s.chain.extraApps).find? fun a => a.address = address
  (.after now s.chain.appDelay (orFail s.chain.appFailure (orNotFound found address)),
    { s with counts := { s.counts with getApp := s.counts.getApp + 1 } })

def fetchSession (now : Nat) (service : ServiceId) (app : String) (s : Script) :
    Pending (Except ChainError Session) × Script :=
  let entry := s.chain.sessions.find? fun e => e.service = service && e.app = app
  let answer := orFail (entry.bind ScriptedSession.failure)
    (orNotFound (entry.bind ScriptedSession.session) (service ++ ":" ++ app))
  let active := s.activeSessions + 1
  (.after now ((entry.bind ScriptedSession.delay).getD s.chain.sessionDelay) answer,
    { s with activeSessions := active,
             counts := { s.counts with getSession := s.counts.getSession + 1,
                                       maxActiveSessions := max s.counts.maxActiveSessions active } })

def sessionClosed (s : Script) : Script := { s with activeSessions := s.activeSessions - 1 }

def blockHeight (now : Nat) (s : Script) : Pending (Except ChainError Nat) × Script :=
  (.after now s.chain.heightDelay (orFail s.chain.heightFailure (.ok s.chain.height)),
    { s with counts := { s.counts with height := s.counts.height + 1 } })

def accountKey (now : Nat) (address : String) (s : Script) :
    Pending (Except ChainError String) × Script :=
  let key := (s.chain.keys.lookup address).getD (address ++ "-pubkey")
  (.after now s.chain.keyDelay (orFail s.chain.keyFailure (.ok key)),
    { s with counts := { s.counts with key := s.counts.key + 1 } })

def validate (now : Nat) (reply : Bytes) (s : Script) :
    Pending (Except ChainError ValidatedRelay) × Script :=
  let payload := s.chain.validatePayload.getD reply
  (.after now s.chain.validateDelay
      (orFail s.chain.validateFailure (.ok ⟨payload, s.chain.validateStatus⟩)),
    { s with counts := { s.counts with validate := s.counts.validate + 1 } })

/-- The signature names the application and the number of the call. -/
def sign (now : Nat) (request : RelayRequest) (app : Application) (s : Script) :
    Pending (Except SignerError SignedRelay) × Script :=
  let n := s.counts.sign + 1
  let signature := Bytes.ofString ("sig:" ++ app.address ++ ":" ++ toString n)
  (.after now s.signer.delay
      (orFail s.signer.failure (.ok ⟨s.signer.tampering.apply request, signature⟩)),
    { s with counts := { s.counts with sign := n } })

def post (now : Nat) (url : String) (body : Bytes) (timeout : Nat) (s : Script) :
    Pending (Except TransportError Bytes) × Script :=
  let s : Script := { s with posts := s.posts ++ [⟨url, body, timeout⟩] }
  match s.transport.find? fun r => r.urlStart.toList.isPrefixOf url.toList with
  | some rule => (.after now rule.delay (orFail rule.failure (.ok (rule.reply.getD body))), s)
  | none => (.after now 0 (.ok body), s)

instance : Collaborators Script where
  fetchApps := fetchApps
  fetchApp := fetchApp
  fetchSession := fetchSession
  sessionClosed := sessionClosed
  blockHeight := blockHeight
  accountKey := accountKey
  validate now _ reply := validate now reply
  isHealthy s := s.chain.healthy
  sign := sign
  post := post

end Script
end RelayGateway
