import RelayGateway.Json.Record

/-! # Sessions

A session binds an application to a set of suppliers for one service, between two block heights.
Each supplier advertises URLs, one per kind of remote call; applications name the services that
they are staked for.
-/
namespace RelayGateway

abbrev ServiceId := String

inductive RpcType where
  | jsonRpc
  | rest
  | cometBft
  | grpc
  | websocket
deriving DecidableEq, Inhabited

namespace RpcType

def all : List RpcType := [jsonRpc, rest, cometBft, grpc, websocket]

def name : RpcType → String
  | jsonRpc => "json_rpc"
  | rest => "rest"
  | cometBft => "comet_bft"
  | grpc => "grpc"
  | websocket => "websocket"

def ofName? (s : String) : Option RpcType := all.find? (fun t => t.name = s)

def isStreaming (t : RpcType) : Bool := t = websocket

theorem ofName?_name (t : RpcType) : ofName? t.name = some t := by cases t <;> rfl

end RpcType

structure Application where
  address : String
  publicKey : String
  serviceIds : List ServiceId
deriving DecidableEq, Inhabited

def Application.serves (a : Application) (service : ServiceId) : Bool := a.serviceIds.contains service

structure SupplierUrl where
  rpcType : RpcType
  url : String
deriving DecidableEq, Inhabited

structure SupplierEndpoints where
  supplier : String
  urls : List SupplierUrl
deriving DecidableEq, Inhabited

structure SessionHeader where
  sessionId : String
  serviceId : ServiceId
  appAddress : String
  startHeight : Nat
  endHeight : Nat
deriving DecidableEq, Inhabited

/-- A session whose application is not known cannot be used for signing. -/
structure Session where
  header : SessionHeader
  application : Option Application
  suppliers : List SupplierEndpoints
deriving DecidableEq, Inhabited

namespace Session

def id (s : Session) : String := s.header.sessionId

def appAddress (s : Session) : String := s.header.appAddress

def serviceId (s : Session) : ServiceId := s.header.serviceId

end Session
end RelayGateway
