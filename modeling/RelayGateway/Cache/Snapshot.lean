import RelayGateway.Endpoint
import RelayGateway.Json.Record
import RelayGateway.Timestamp

/-! # Snapshots of the chain

A snapshot is one consistent view: the applications, their sessions, and for every service the
endpoints of all its sessions. Where two sessions of a service have an endpoint with the same address,
the session that comes first in the order of the jobs keeps it.
-/
namespace RelayGateway

structure SessionJob where
  serviceId : ServiceId
  appAddress : String
deriving DecidableEq, Inhabited

namespace SessionJob

def le (a b : SessionJob) : Bool :=
  if a.serviceId = b.serviceId then decide (a.appAddress ≤ b.appAddress)
  else decide (a.serviceId ≤ b.serviceId)

def ofApp (app : Application) : List SessionJob := app.serviceIds.map fun id => ⟨id, app.address⟩

/-- Every pair of service and application once, in order. -/
def ofApps (apps : List Application) : List SessionJob :=
  ((apps.flatMap ofApp).mergeSort le).eraseDups

end SessionJob

/-- Hints that narrow the endpoints of a service: to one application's session, to one supplier. -/
structure RequestMetadata where
  appAddress : Option String
  targetSupplier : Option String
deriving DecidableEq, Inhabited

namespace RequestMetadata

def ofJson? (j : Json) : Option RequestMetadata := do
  let r ← Json.Record.of? ["app_address", "target_supplier"] j
  let app ← r.defaulted "app_address" none (Json.nullable? Json.string?)
  let supplier ← r.defaulted "target_supplier" none (Json.nullable? Json.string?)
  return ⟨app, supplier⟩

def toJson (m : RequestMetadata) : Json :=
  .object [("app_address", Json.ofOption .string m.appAddress),
    ("target_supplier", Json.ofOption .string m.targetSupplier)]

end RequestMetadata

structure Snapshot where
  apps : List Application
  sessions : Table SessionJob Session
  endpoints : Table ServiceId EndpointMap
  refreshedAt : Option Timestamp

namespace Snapshot

def empty : Snapshot := ⟨[], ∅, ∅, none⟩

def session? (s : Snapshot) (service : ServiceId) (appAddress : String) : Option Session :=
  s.sessions.find? ⟨service, appAddress⟩

def app? (s : Snapshot) (address : String) : Option Application :=
  s.apps.find? fun a => a.address = address

def serviceIds (s : Snapshot) : List ServiceId :=
  ((s.apps.flatMap Application.serviceIds).mergeSort fun a b => decide (a ≤ b)).eraseDups

def ofService (s : Snapshot) (service : ServiceId) : EndpointMap :=
  (s.endpoints.find? service).getD ∅

def serviceEndpoints (s : Snapshot) (service : ServiceId) (m : RequestMetadata) : EndpointMap :=
  match m.appAddress with
  | some app =>
    match s.session? service app with
    | some session => session.endpoints m.targetSupplier
    | none => ∅
  | none =>
    match m.targetSupplier with
    | some supplier => (s.ofService service).filter fun _ e => e.supplier = supplier
    | none => s.ofService service

/-- Sessions and endpoints put together job by job, with the number of endpoints that were there
already. -/
structure Assembly where
  sessions : Table SessionJob Session
  endpoints : Table ServiceId EndpointMap
  duplicates : Nat

def Assembly.add (a : Assembly) (e : SessionJob × Session) : Assembly :=
  let known := (a.endpoints.find? e.1.serviceId).getD ∅
  let (merged, duplicates) := EndpointMap.mergeFirstSeen known (e.2.endpoints none).values
  ⟨a.sessions.insert e.1 e.2, a.endpoints.insert e.1.serviceId merged, a.duplicates + duplicates⟩

/-- The fetched sessions in the order of their jobs, whatever order they came in. -/
def inOrder (fetched : List (SessionJob × Session)) : List (SessionJob × Session) :=
  fetched.mergeSort fun a b => SessionJob.le a.1 b.1

def assemble (fetched : List (SessionJob × Session)) : Assembly :=
  (inOrder fetched).foldl Assembly.add ⟨∅, ∅, 0⟩

def endpointCount (endpoints : Table ServiceId EndpointMap) : Nat :=
  endpoints.values.foldl (fun n m => n + m.size) 0

end Snapshot
end RelayGateway
