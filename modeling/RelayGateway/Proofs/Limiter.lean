import Mathlib.Data.List.Nodup
import Mathlib.Data.Set.Card
import RelayGateway.Limiter

/-! # Every permit is somewhere

A permit is free, or handed to someone who has not taken it up yet, or held. Who waits and who holds a
permit is known beside the limiter, as a place for everyone; the limiter keeps track of the places, and
no permit is lost or made on the way.
-/
namespace RelayGateway

inductive Place where
  | away
  | waiting
  | holding
deriving DecidableEq

namespace Limiter

/-- The limiter keeps track of the places, while `loose` permits are on their way back. -/
structure Tracks (loose : Nat) (l : Limiter) (place : HolderId → Place) : Prop where
  conserved : l.available + l.granted.length + l.holders.length + loose = l.capacity
  /-- No permit is free while someone queues. -/
  busy : l.queue ≠ [] → l.available = 0
  distinct : (l.queue ++ l.granted ++ l.holders).Nodup
  waiting : ∀ id, place id = .waiting ↔ id ∈ l.queue ∨ id ∈ l.granted
  holding : ∀ id, place id = .holding ↔ id ∈ l.holders

variable {l : Limiter} {place : HolderId → Place} {id : HolderId} {loose : Nat}

theorem tracks_new (limit : Nat) : Tracks 0 (new limit) fun _ => .away where
  conserved := rfl
  busy h := absurd rfl h
  distinct := .nil
  waiting _ := by simp [new]
  holding _ := by simp [new]

theorem capacity_request : (l.request id).capacity = l.capacity := by
  unfold request
  split <;> rfl

theorem capacity_take : (l.take id).capacity = l.capacity := by
  unfold take
  split <;> rfl

theorem capacity_giveBack : l.giveBack.1.capacity = l.capacity := by
  unfold giveBack
  split <;> rfl

theorem capacity_release : (l.release id).1.capacity = l.capacity := by
  unfold release
  split
  · exact capacity_giveBack
  · rfl

theorem capacity_withdraw : (l.withdraw id).1.capacity = l.capacity := by
  unfold withdraw
  split
  · exact capacity_giveBack
  · rfl

namespace Tracks

theorem nodup_granted (h : Tracks loose l place) : l.granted.Nodup :=
  h.distinct.of_append_left.of_append_right

theorem nodup_holders (h : Tracks loose l place) : l.holders.Nodup := h.distinct.of_append_right

theorem not_mem_granted (h : Tracks loose l place) (hid : id ∈ l.queue) : id ∉ l.granted :=
  List.disjoint_of_nodup_append h.distinct.of_append_left hid

/-- A request is granted at once when a permit is free, and waits otherwise. -/
theorem request (h : Tracks 0 l place) (hid : place id = .away) :
    Tracks 0 (l.request id)
      (Function.update place id (if 0 < l.available then .holding else .waiting)) := by
  have hqueue : id ∉ l.queue ∧ id ∉ l.granted := by
    rw [← not_or, ← h.waiting id, hid]
    nofun
  have hholders : id ∉ l.holders := by
    rw [← h.holding id, hid]
    nofun
  have hnew : id ∉ l.queue ++ l.granted ++ l.holders := by
    simp only [List.mem_append, not_or]
    exact ⟨hqueue, hholders⟩
  unfold Limiter.request
  split
  · rename_i havailable
    constructor
    · have := h.conserved
      simp only [List.length_cons]
      omega
    · intro hwaiting
      exact absurd (h.busy hwaiting) havailable.ne'
    · exact List.nodup_middle.2 (List.nodup_cons.2 ⟨hnew, h.distinct⟩)
    · intro x
      by_cases hx : x = id
      · subst hx
        simpa using hqueue
      · simpa [hx] using h.waiting x
    · intro x
      by_cases hx : x = id
      · simp [hx]
      · simpa [hx] using h.holding x
  · rename_i havailable
    constructor
    · exact h.conserved
    · intro _
      exact Nat.eq_zero_of_not_pos havailable
    · rw [List.append_assoc, List.append_assoc, List.singleton_append]
      rw [List.append_assoc] at hnew
      exact List.nodup_middle.2 (List.nodup_cons.2 ⟨hnew, List.append_assoc .. ▸ h.distinct⟩)
    · intro x
      by_cases hx : x = id
      · simp [hx]
      · simpa [hx] using h.waiting x
    · intro x
      by_cases hx : x = id
      · subst hx
        simpa using hholders
      · simpa [hx] using h.holding x

theorem take (h : Tracks 0 l place) (hgranted : id ∈ l.granted) :
    Tracks 0 (l.take id) (Function.update place id .holding) := by
  have hsplit := List.perm_cons_erase hgranted
  unfold Limiter.take
  rw [if_pos (List.contains_iff_mem.2 hgranted)]
  constructor
  · have := h.conserved
    have := List.length_erase_add_one hgranted
    simp only [List.length_cons]
    omega
  · exact h.busy
  · have hperm : (l.queue ++ l.granted.erase id ++ id :: l.holders).Perm
        (l.queue ++ l.granted ++ l.holders) := by
      rw [List.append_assoc, List.append_assoc]
      refine .append_left _ ?_
      exact List.perm_middle.trans (hsplit.symm.append_right l.holders)
    exact hperm.nodup_iff.2 h.distinct
  · intro x
    by_cases hx : x = id
    · subst hx
      simp only [Function.update_self, reduceCtorEq, false_iff, not_or]
      exact ⟨fun hqueue => h.not_mem_granted hqueue hgranted, h.nodup_granted.not_mem_erase⟩
    · rw [Function.update_of_ne hx, h.waiting x, List.mem_erase_of_ne hx]
  · intro x
    by_cases hx : x = id
    · simp [hx]
    · simpa [hx] using h.holding x

theorem not_mem_of_holding (h : Tracks loose l place) (hid : place id = .holding) :
    id ∉ l.queue ∧ id ∉ l.granted := by
  rw [← not_or, ← h.waiting id, hid]
  nofun

/-- A permit that comes back is free, or goes to the first in the queue. -/
theorem giveBack (h : Tracks 1 l place) : Tracks 0 l.giveBack.1 place := by
  unfold Limiter.giveBack
  split
  · rename_i hqueue
    refine ⟨?_, fun hne => absurd hqueue hne, h.distinct, h.waiting, h.holding⟩
    have := h.conserved
    dsimp only
    omega
  · rename_i next queue hqueue
    have hdistinct := h.distinct
    have hwaiting := h.waiting
    rw [hqueue] at hdistinct hwaiting
    constructor
    · have := h.conserved
      simp only [List.length_append, List.length_singleton]
      omega
    · intro _
      exact h.busy (hqueue ▸ nofun)
    · have hperm : (queue ++ (l.granted ++ [next]) ++ l.holders).Perm
          (next :: queue ++ l.granted ++ l.holders) := by
        refine .append_right _ ?_
        rw [← List.append_assoc]
        exact List.perm_append_singleton next (queue ++ l.granted)
      exact hperm.nodup_iff.2 hdistinct
    · intro x
      rw [hwaiting x]
      simp only [List.mem_cons, List.mem_append, List.not_mem_nil, or_false]
      tauto
    · exact h.holding

theorem release (h : Tracks 0 l place) (hid : place id = .holding) :
    Tracks 0 (l.release id).1 (Function.update place id .away) := by
  have hmem := (h.holding id).1 hid
  unfold Limiter.release
  rw [if_pos (List.contains_iff_mem.2 hmem)]
  refine giveBack ⟨?_, h.busy, ?_, ?_, ?_⟩
  · have := h.conserved
    have := List.length_erase_add_one hmem
    dsimp only
    omega
  · exact h.distinct.sublist (List.Sublist.append_left List.erase_sublist _)
  · intro x
    by_cases hx : x = id
    · subst hx
      simpa using h.not_mem_of_holding hid
    · simpa [hx] using h.waiting x
  · intro x
    by_cases hx : x = id
    · subst hx
      simpa using h.nodup_holders.not_mem_erase
    · rw [Function.update_of_ne hx, h.holding x, List.mem_erase_of_ne hx]

theorem withdraw (h : Tracks 0 l place) (hid : place id = .waiting) :
    Tracks 0 (l.withdraw id).1 (Function.update place id .away) := by
  have hholders : id ∉ l.holders := by
    rw [← h.holding id, hid]
    nofun
  have hholding : ∀ x, Function.update place id .away x = .holding ↔ x ∈ l.holders := by
    intro x
    by_cases hx : x = id
    · subst hx
      simpa using hholders
    · simpa [hx] using h.holding x
  unfold Limiter.withdraw
  split
  · rename_i hgranted
    have hmem := List.contains_iff_mem.1 hgranted
    refine giveBack ⟨?_, h.busy, ?_, ?_, hholding⟩
    · have := h.conserved
      have := List.length_erase_add_one hmem
      dsimp only
      omega
    · exact h.distinct.sublist ((List.Sublist.append_left List.erase_sublist _).append_right _)
    · intro x
      by_cases hx : x = id
      · subst hx
        simp only [Function.update_self, reduceCtorEq, false_iff, not_or]
        exact ⟨fun hqueue => h.not_mem_granted hqueue hmem, h.nodup_granted.not_mem_erase⟩
      · rw [Function.update_of_ne hx, h.waiting x, List.mem_erase_of_ne hx]
  · rename_i hgranted
    have hnot : id ∉ l.granted := fun hmem => hgranted (List.contains_iff_mem.2 hmem)
    refine ⟨h.conserved, ?_, ?_, ?_, hholding⟩
    · intro hne
      refine h.busy fun hempty => hne ?_
      rw [hempty]
      rfl
    · exact h.distinct.sublist ((List.filter_sublist.append_right _).append_right _)
    · intro x
      by_cases hx : x = id
      · subst hx
        simpa using hnot
      · simpa [hx] using h.waiting x

/-! ## Counting -/

theorem active_le (h : Tracks 0 l place) : l.active ≤ l.capacity := by
  have := h.conserved
  unfold active
  omega

theorem encard_holding (h : Tracks loose l place) : {id | place id = .holding}.encard = l.active := by
  have hset : {id | place id = .holding} = (l.holders.toFinset : Set HolderId) := by
    ext id
    simpa using h.holding id
  rw [hset, Set.encard_coe_eq_coe_finsetCard, List.toFinset_card_of_nodup h.nodup_holders]
  rfl

theorem count_holders (h : Tracks loose l place) (hid : place id = .holding) :
    l.holders.count id = 1 :=
  List.count_eq_one_of_mem h.nodup_holders ((h.holding id).1 hid)

end Tracks

/-! ## Who is woken -/

theorem granted_giveBack {x : HolderId} (hx : x ∈ l.giveBack.1.granted) :
    x ∈ l.granted ∨ x ∈ l.giveBack.2 := by
  unfold giveBack at hx ⊢
  split at hx
  · exact .inl hx
  · simpa using hx

theorem granted_release {x : HolderId} (hx : x ∈ (l.release id).1.granted) :
    x ∈ l.granted ∨ x ∈ (l.release id).2 := by
  unfold release at hx ⊢
  split at hx
  · rw [if_pos ‹_›]
    exact granted_giveBack hx
  · exact .inl hx

theorem granted_withdraw {x : HolderId} (hx : x ∈ (l.withdraw id).1.granted) :
    x ∈ l.granted ∨ x ∈ (l.withdraw id).2 := by
  unfold withdraw at hx ⊢
  split at hx
  · rw [if_pos ‹_›]
    exact (granted_giveBack hx).imp_left List.mem_of_mem_erase
  · exact .inl hx

theorem granted_take {x : HolderId} (hx : x ∈ (l.take id).granted) : x ∈ l.granted := by
  unfold take at hx
  split at hx
  · exact List.mem_of_mem_erase hx
  · exact hx

theorem granted_request : (l.request id).granted = l.granted := by
  unfold request
  split <;> rfl

end Limiter
end RelayGateway
