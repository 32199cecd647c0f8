import RelayGateway.Proofs.Signing.Key
import RelayGateway.Proofs.Signing.SingleFlight

/-! # Histories of the signature cache

A history is what the calls have done and what each step has come to, when the store answers at once
and keeps what it is given. The computations are those of the callers: they return what they have been
asked to sign, or fail.
-/
namespace RelayGateway.SignatureCache

inductive Action where
  | begin (id : CallId) (request : RelayRequest) (app : Application)
  | resume (id : CallId)
  | finish (id : CallId) (result : Except SignerError SignedRelay)
  | cancel (id : CallId)
  | sweep

namespace Action

def call? : Action → Option CallId
  | begin id _ _ => some id
  | resume id => some id
  | finish id _ => some id
  | cancel id => some id
  | sweep => none

def data? : Action → Option RelayData
  | begin _ request _ => some request.data
  | _ => none

def success? : Action → Option SignedRelay
  | finish _ (.ok signed) => some signed
  | _ => none

end Action

def asked (actions : List Action) : List RelayData := actions.filterMap Action.data?

def successes (actions : List Action) : List SignedRelay := actions.filterMap Action.success?

def act (c : SignatureCache) : Action → Step
  | .begin id request app => c.begin id request app
  | .resume id => c.resume id
  | .finish id result => c.finish id result
  | .cancel id => ⟨(c.cancel id).1, .wait, (c.cancel id).2⟩
  | .sweep => ⟨c.sweep, .wait, []⟩

inductive Allowed (actions : List Action) (c : SignatureCache) : Action → Prop where
  | begin {id : CallId} {request : RelayRequest} {app : Application}
      (new : ∀ request' app', .begin id request' app' ∉ actions)
      (own : request.header.appAddress = app.address) : Allowed actions c (.begin id request app)
  | resume (id : CallId) : Allowed actions c (.resume id)
  | finish {id : CallId} {call : SignatureCall} {result : Except SignerError SignedRelay}
      (found : c.calls.find? id = some call) (computing : isComputing call = true)
      (same : ∀ signed, result = .ok signed → signed.request = call.request) :
      Allowed actions c (.finish id result)
  | cancel (id : CallId) : Allowed actions c (.cancel id)
  | sweep : Allowed actions c .sweep

abbrev Log := List (Action × Progress)

def Log.actions (h : Log) : List Action := h.map Prod.fst

/-- The histories of a new cache, with the cache they lead to. -/
inductive History (config : SignatureCacheConfig) : Log → SignatureCache → Prop where
  | start : History config [] (new config)
  | step {h : Log} {c : SignatureCache} {a : Action} (history : History config h c)
      (allowed : Allowed h.actions c a) :
      History config (h ++ [(a, (c.act a).progress)]) (c.act a).cache

end RelayGateway.SignatureCache
