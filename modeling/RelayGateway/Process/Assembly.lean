import RelayGateway.Http.Post
import RelayGateway.Process.Operation

/-! # Assembling a runtime

A runtime is put together from a configuration and the collaborators. The configuration comes first
and must be valid; a transport that is not given is an HTTP transport. Background tasks start with the
runtime unless they are left out.
-/
namespace RelayGateway

inductive RuntimeError where
  | configValidation (reason : String)
  | missingComponent (component : String)
  | initialization (reason : String)
deriving DecidableEq, Inhabited

def RuntimeError.message : RuntimeError → String
  | configValidation reason => "Configuration validation failed: " ++ reason
  | missingComponent component => "Missing runtime component: " ++ component
  | initialization reason => "Runtime initialization failed: " ++ reason

structure RuntimeParts where
  config : Option GatewayConfig
  hasChain : Bool
  hasSigner : Bool
  hasTransport : Bool
  background : Bool
deriving Inhabited

namespace RuntimeParts

def config? (p : RuntimeParts) : Except RuntimeError GatewayConfig :=
  match p.config with
  | none => .error (.configValidation "No configuration provided")
  | some c =>
    match c.fault? with
    | some fault => .error (.configValidation fault)
    | none => .ok c

def missing? (p : RuntimeParts) (c : GatewayConfig) : Option RuntimeError :=
  if !p.hasChain then some (.missingComponent "chain client")
  else if !p.hasSigner then some (.missingComponent "relay signer")
  else if p.hasTransport then none
  else
    match HttpTransport.ofConfig? c.transport with
    | .ok _ => none
    | .error e => some (.initialization ("Relay transport: " ++ e.message))

def assemble {ω : Type} [Collaborators ω] (p : RuntimeParts) (outside : ω) :
    Except RuntimeError (Operation ω) :=
  match p.config? with
  | .error e => .error e
  | .ok c =>
    match p.missing? c with
    | some e => .error e
    | none =>
      let o := Operation.begin c outside
      .ok (if p.background then (Operation.startRuntime o).1 else o)

end RuntimeParts
end RelayGateway
