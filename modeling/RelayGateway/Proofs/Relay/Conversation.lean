import RelayGateway.Proofs.Relay.Delivery

/-! # What moves and turns exchange

A move exchanges nothing with the collaborators, or one call of its attempt. The ledger grows by what the
moves exchange, so what is exchanged in a turn is what its moves have exchanged, in order, and what a leg
has exchanged is what its turns have.
-/
namespace RelayGateway
variable {ω : Type} {a : Attempt} {now : Nat} {id : ProcessId} {r r' r'' : Relays (Ledger ω)}
variable {p p' : Phase} {xs : List Exchange}

namespace Relays

def Grows (r r' : Relays (Ledger ω)) : Prop := r.outside.exchanges <+: r'.outside.exchanges

theorem Grows.rfl : r.Grows r := List.prefix_rfl

theorem Grows.append (h : r''.outside.exchanges = r'.outside.exchanges ++ xs) : r'.Grows r'' :=
  ⟨xs, h.symm⟩

theorem Grows.trans (h : r.Grows r') (h' : r'.Grows r'') : r.Grows r'' := List.IsPrefix.trans h h'

theorem Grows.eq_append (h : r.Grows r') :
    r'.outside.exchanges = r.outside.exchanges ++ r.since r' := by
  obtain ⟨xs, hxs⟩ := h
  unfold since
  rw [← hxs, List.drop_left]

theorem since_of_eq (h : r'.outside = r.outside) : r.since r' = [] := by
  unfold since
  rw [h, List.drop_length]

theorem since_append (h : r.Grows r') (h' : r''.outside.exchanges = r'.outside.exchanges ++ xs) :
    r.since r'' = r.since r' ++ xs := by
  have hbefore := h.eq_append
  unfold since at hbefore ⊢
  rw [h', hbefore, List.append_assoc, List.drop_left, List.drop_left]

theorem since_trans (h : r.Grows r') (h' : r'.Grows r'') : r.since r'' = r.since r' ++ r'.since r'' :=
  since_append h h'.eq_append

end Relays

namespace Attempt

inductive Noted (a : Attempt) (now : Nat) : Phase → List Exchange → Phase → Prop
  | silent (p p' : Phase) : Noted a now p [] p'
  | sign {request : RelayRequest} {app : Application} (good : a.request? = .ok (request, app))
      (answer : Pending (Except SignerError SignedRelay)) :
      Noted a now (.looked .compute) [.sign now request app answer] (.at (.signing answer))
  | post (body : Bytes) (reply : Pending (Except TransportError Bytes)) :
      Noted a now (.at (.queueing body)) [.post now a.url body (a.deadline - now) reply]
        (.at (.posting reply))
  | validate (protocol : a.endpoint.isFallback = false) {reply : Pending (Except TransportError Bytes)}
      {bytes : Bytes} (ready : reply.ready? now = some (.ok bytes))
      (verdict : Pending (Except ChainError ValidatedRelay)) :
      Noted a now (.at (.posting reply)) [.validate now a.endpoint.supplier bytes verdict]
        (.at (.validating verdict))

variable [Collaborators ω]

theorem Move.noted (move : a.Move now id (r, p) (r', p')) :
    ∃ xs, r'.outside.exchanges = r.outside.exchanges ++ xs ∧ a.Noted now p xs p' := by
  cases move with
  | sign good => exact ⟨_, rfl, .sign good _⟩
  | post holds => exact ⟨_, rfl, .post _ _⟩
  | validate protocol ready => exact ⟨_, rfl, .validate protocol ready _⟩
  | lapse due unready =>
    exact ⟨[], by rw [drop_outside, List.append_nil], .silent _ _⟩
  | _ => exact ⟨[], (List.append_nil _).symm, .silent _ _⟩

theorem Move.grows (move : a.Move now id (r, p) (r', p')) : r.Grows r' := by
  obtain ⟨xs, heq, -⟩ := move.noted
  exact .append heq

end Attempt

namespace Leg

theorem exchanges_after (a : Attempt) (turns : List (AttemptTurn ω)) (now : Nat)
    (r : Relays (Ledger ω)) (s : Relays (Ledger ω) × AttemptProgress) :
    (after a turns now r s).exchanges = turns.flatMap AttemptTurn.exchanges ++ r.since s.1 := by
  unfold exchanges after
  rw [List.flatMap_append, List.flatMap_singleton]
  rfl

theorem exchanges_drop (leg : Leg ω) (now : Nat) (id : ProcessId) (r : Relays (Ledger ω))
    (stage : AttemptStage) : (leg.drop now id r stage).exchanges = leg.exchanges := by
  unfold exchanges drop
  rw [List.flatMap_append, List.flatMap_singleton, AttemptTurn.exchanges,
    Relays.since_of_eq (Attempt.drop_outside id r stage), List.append_nil]

variable [Collaborators ω]

theorem exchanges_start (a : Attempt) (now : Nat) (id : ProcessId) (r : Relays (Ledger ω)) :
    (start a now id r).exchanges = r.since (a.start now id r).1 :=
  exchanges_after a [] now r _

theorem exchanges_resume (leg : Leg ω) (now : Nat) (id : ProcessId) (r : Relays (Ledger ω))
    (stage : AttemptStage) : (leg.resume now id r stage).exchanges =
      leg.exchanges ++ r.since (leg.attempt.resume now id r stage).1 :=
  exchanges_after leg.attempt leg.turns now r _

end Leg
end RelayGateway
