import RelayGateway.Proofs.Relay.Forgetting

/-! # What is exchanged with the collaborators

A ledger keeps, in order, the calls that carry relays, each with the time it was made at and the answer
that was decided for it. It passes every call on and changes nothing else.
-/
namespace RelayGateway

inductive Exchange where
  | sign (now : Nat) (request : RelayRequest) (app : Application)
      (answer : Pending (Except SignerError SignedRelay))
  | post (now : Nat) (url : String) (body : Bytes) (timeout : Nat)
      (reply : Pending (Except TransportError Bytes))
  | validate (now : Nat) (supplier : String) (reply : Bytes)
      (verdict : Pending (Except ChainError ValidatedRelay))

def Exchange.isPost : Exchange → Bool
  | post .. => true
  | _ => false

structure Ledger (ω : Type) where
  inner : ω
  exchanges : List Exchange

variable {ω : Type}

namespace Ledger

/-- The answer is passed back, and noted when `note` makes an exchange of it. -/
def pass {α : Type} (note : Pending α → List Exchange) (f : ω → Pending α × ω) (x : Ledger ω) :
    Pending α × Ledger ω :=
  let (answer, inner) := f x.inner
  (answer, ⟨inner, x.exchanges ++ note answer⟩)

instance [Collaborators ω] : Collaborators (Ledger ω) where
  fetchApps now := pass (fun _ => []) (Collaborators.fetchApps now)
  fetchApp now address := pass (fun _ => []) (Collaborators.fetchApp now address)
  fetchSession now service appAddress :=
    pass (fun _ => []) (Collaborators.fetchSession now service appAddress)
  sessionClosed x := ⟨Collaborators.sessionClosed x.inner, x.exchanges⟩
  blockHeight now := pass (fun _ => []) (Collaborators.blockHeight now)
  accountKey now address := pass (fun _ => []) (Collaborators.accountKey now address)
  validate now supplier reply :=
    pass (fun verdict => [.validate now supplier reply verdict])
      (Collaborators.validate now supplier reply)
  isHealthy x := Collaborators.isHealthy x.inner
  sign now request app :=
    pass (fun answer => [.sign now request app answer]) (Collaborators.sign now request app)
  post now url body timeout :=
    pass (fun reply => [.post now url body timeout reply]) (Collaborators.post now url body timeout)

theorem forgets [Collaborators ω] : Collaborators.Forgets (inner : Ledger ω → ω) where
  sign _ _ _ _ := rfl
  post _ _ _ _ _ := rfl
  validate _ _ _ _ := rfl

end Ledger

def Relays.since (r r' : Relays (Ledger ω)) : List Exchange :=
  r'.outside.exchanges.drop r.outside.exchanges.length

end RelayGateway
