import RelayGateway.ExpiringMap
import RelayGateway.Sanction.Report

/-! # The sanction store

Sanctions are recorded from observations and consulted before endpoints are offered. Permanent
sanctions stay until the store is cleared; session sanctions expire.
-/
namespace RelayGateway

structure SanctionStore where
  config : SanctionConfig
  permanent : Table EndpointAddr Sanction
  session : ExpiringMap SessionSanctionKey Sanction

namespace SanctionStore

def new (config : SanctionConfig) : SanctionStore := ⟨config, ∅, ExpiringMap.empty config.sessionTtl⟩

/-- Records what one observation recommends. Fallback endpoints are never sanctioned. -/
def record (now : Nat) (s : SanctionStore) (o : EndpointObservation) : SanctionStore :=
  if o.isFallback then s
  else
    let sanction := Sanction.ofObservation o (Timestamp.ofMillis now)
    match o.recommendedSanction with
    | some .permanent => { s with permanent := s.permanent.insert o.endpointAddr sanction }
    | some .session => { s with session := s.session.insert now o.sanctionKey sanction }
    | _ => s

def applyObservations (s : SanctionStore) (now : Nat) (os : List EndpointObservation) :
    SanctionStore :=
  os.foldl (record now) s

/-- Why an endpoint is sanctioned, if it is; a permanent sanction is named first. -/
def reason? (s : SanctionStore) (now : Nat) (e : Endpoint) : Option String :=
  match s.permanent.find? e.addr with
  | some sanction => some ("permanent sanction: " ++ sanction.reason)
  | none =>
    match e.sanctionKey? with
    | some key =>
      (s.session.find? now key).map fun sanction => "session sanction: " ++ sanction.reason
    | none => none

/-- The store after `e` has been checked: the check may have met an expired sanction. -/
def afterCheck (now : Nat) (s : SanctionStore) (e : Endpoint) : SanctionStore :=
  match s.permanent.find? e.addr, e.sanctionKey? with
  | none, some key => { s with session := s.session.afterRead now key }
  | _, _ => s

def allowed (s : SanctionStore) (now : Nat) (candidates : EndpointMap) : EndpointMap :=
  candidates.filter fun _ e => (s.reason? now e).isNone

def afterFilter (s : SanctionStore) (now : Nat) (candidates : EndpointMap) : SanctionStore :=
  candidates.values.foldl (afterCheck now) s

def sweep (s : SanctionStore) (now : Nat) : SanctionStore :=
  { s with session := s.session.sweep now }

def clear (s : SanctionStore) : SanctionStore :=
  { s with permanent := ∅, session := s.session.clear }

def concerns (service : Option ServiceId) (sanction : Sanction) : Bool :=
  match service with
  | some id => sanction.sessionServiceId = id
  | none => true

def details (s : SanctionStore) (now : Nat) (service : Option ServiceId) : SanctionDetails :=
  let permanent := (s.permanent.entries.filter fun e => concerns service e.2).map
    fun e => ⟨e.1, .permanent, e.2⟩
  let session := ((s.session.liveEntries now).filter fun e => concerns service e.2).map
    fun e => ⟨e.1.endpointAddr, .session, e.2⟩
  ⟨permanent, session, permanent.length, session.length⟩

end SanctionStore
end RelayGateway
