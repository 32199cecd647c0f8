import Mathlib.Data.List.Induction
import Mathlib.Data.List.Nodup
import RelayGateway.Proofs.ExpiringMap

/-! # An expiring map is the log of its insertions

A map that has been asked in the order of the clock answers as the log of what it was asked: a key has
the value of its last insertion, unless the map was cleared since, for as long as that insertion is
younger than the lifetime. What is stored beyond that is never seen; it only counts until it is evicted.
-/
namespace RelayGateway.ExpiringMap
variable {κ ν : Type} {m m' : ExpiringMap κ ν} {now later ttl t : Nat} {k : κ} {v : ν}

inductive Request (κ ν : Type) where
  | insert (k : κ) (v : ν)
  | get (k : κ)
  | contains (k : κ)
  | live
  | size
  | sweep
  | clear

inductive Answer (κ ν : Type) where
  | done
  | value (v : Option ν)
  | truth (b : Bool)
  | entries (l : List (κ × ν))
  | count (n : Nat)

abbrev Requests (κ ν : Type) := List (Nat × Request κ ν)

/-- The clock never goes back, and shows `now` at the end. -/
def InOrder (requests : Requests κ ν) (now : Nat) : Prop :=
  requests.Pairwise (fun x y => x.1 ≤ y.1) ∧ ∀ x ∈ requests, x.1 ≤ now

def Request.isWrite : Request κ ν → Bool
  | insert _ _ => true
  | clear => true
  | _ => false

def Request.Ends (k : κ) : Request κ ν → Prop
  | insert k' _ => k' = k
  | clear => True
  | _ => False

/-- The last insertion for `k` that no clear follows was of `v`, at time `t`. -/
def LastInserted (requests : Requests κ ν) (k : κ) (v : ν) (t : Nat) : Prop :=
  ∃ before after, requests = before ++ (t, .insert k v) :: after ∧ ∀ x ∈ after, ¬ x.2.Ends k

variable {requests requests' : Requests κ ν} {r : Request κ ν}

theorem inOrder_snoc : InOrder (requests ++ [(t, r)]) now ↔ InOrder requests t ∧ t ≤ now := by
  unfold InOrder
  simp only [List.pairwise_append, List.pairwise_singleton, List.mem_append, List.mem_singleton]
  constructor
  · rintro ⟨⟨hp, -, hle⟩, hnow⟩
    exact ⟨⟨hp, fun x hx => hle x hx (t, r) rfl⟩, hnow (t, r) (.inr rfl)⟩
  · rintro ⟨⟨hp, hle⟩, hnow⟩
    refine ⟨⟨hp, trivial, ?_⟩, ?_⟩
    · rintro x hx y rfl
      exact hle x hx
    · rintro x (hx | rfl)
      · exact Nat.le_trans (hle x hx) hnow
      · exact hnow

/-- Only insertions for `k` and clears matter for what was last inserted for it. -/
theorem lastInserted_snoc {x : Nat × Request κ ν} : LastInserted (requests ++ [x]) k v t ↔
    x = (t, .insert k v) ∨ ¬ x.2.Ends k ∧ LastInserted requests k v t := by
  constructor
  · rintro ⟨before, after, heq, hafter⟩
    cases List.eq_nil_or_concat after with
    | inl hnil =>
      subst hnil
      obtain ⟨-, hx⟩ := List.append_inj' heq rfl
      exact .inl (List.cons.inj hx).1
    | inr hlast =>
      obtain ⟨rest, y, rfl⟩ := hlast
      rw [List.concat_eq_append, ← List.cons_append, ← List.append_assoc] at heq
      obtain ⟨hrequests, hx⟩ := List.append_inj' heq rfl
      cases hx
      refine .inr ⟨hafter x (by simp), before, rest, hrequests, ?_⟩
      intro y hy
      exact hafter y (by simp [hy])
  · rintro (rfl | ⟨hx, before, after, rfl, hafter⟩)
    · exact ⟨requests, [], rfl, by simp⟩
    · refine ⟨before, after ++ [x], by simp, ?_⟩
      intro y hy
      rcases List.mem_append.1 hy with hy | hy
      · exact hafter y hy
      · rwa [List.mem_singleton.1 hy]

/-- What was last inserted depends on the insertions and the clears alone. -/
theorem lastInserted_filter :
    LastInserted (requests.filter fun x => x.2.isWrite) k v t ↔ LastInserted requests k v t := by
  induction requests using List.reverseRecOn with
  | nil => rfl
  | append_singleton requests x ih =>
    rw [List.filter_append, List.filter_singleton, lastInserted_snoc]
    cases hx : x.2.isWrite with
    | true => rw [cond_true, lastInserted_snoc, ih]
    | false =>
      rw [cond_false, List.append_nil, ih]
      obtain ⟨t', r⟩ := x
      cases r with
      | insert | clear => cases hx
      | _ => simp [Request.Ends]

/-! ## What is stored -/

theorem nodup_keys_liveEntries (m : ExpiringMap κ ν) (now : Nat) :
    ((m.liveEntries now).map Prod.fst).Nodup := by
  rw [liveEntries, List.map_map]
  exact (m.sweep now).entries.distinct

theorem nodup_liveEntries (m : ExpiringMap κ ν) (now : Nat) : (m.liveEntries now).Nodup :=
  (nodup_keys_liveEntries m now).of_map _

/-- Sweeping evicts what has expired, and that is what it counts. -/
theorem expiredCount_eq (m : ExpiringMap κ ν) (now : Nat) :
    m.expiredCount now = m.entries.entries.countP fun e => decide (e.2.2 ≤ now) := by
  have hsplit := List.length_eq_countP_add_countP (fun e : κ × ν × Nat => live now e.2)
    (l := m.entries.entries)
  have hdead : (fun e : κ × ν × Nat => decide (¬ live now e.2 = true)) =
      fun e => decide (e.2.2 ≤ now) := by
    funext e
    simp [live]
  rw [hdead, List.countP_eq_length_filter (p := fun e : κ × ν × Nat => live now e.2)] at hsplit
  unfold expiredCount sweep Table.size Table.filter
  dsimp only
  omega

variable [DecidableEq κ]

theorem find?_eq_some_iff : m.find? now k = some v ↔
    ∃ expiry, m.entries.find? k = some (v, expiry) ∧ now < expiry := by
  rw [find?_eq_filter]
  cases m.entries.find? k with
  | none => simp
  | some e => by_cases hlive : now < e.2 <;> simp [Option.filter, live, hlive, Prod.ext_iff, eq_comm]

theorem mem_liveEntries : (k, v) ∈ m.liveEntries now ↔ m.find? now k = some v := by
  rw [find?_eq_some_iff]
  simp only [liveEntries, sweep, Table.filter, List.mem_map, List.mem_filter, Prod.ext_iff,
    Table.find?_eq_some_iff]
  constructor
  · rintro ⟨⟨k', v', expiry⟩, ⟨hm, hlive⟩, rfl, rfl⟩
    exact ⟨expiry, hm, of_decide_eq_true hlive⟩
  · rintro ⟨expiry, hm, hlive⟩
    exact ⟨(k, v, expiry), ⟨hm, decide_eq_true hlive⟩, rfl, rfl⟩

/-! ## Every run -/

def serve (m : ExpiringMap κ ν) (now : Nat) : Request κ ν → ExpiringMap κ ν × Answer κ ν
  | .insert k v => (m.insert now k v, .done)
  | .get k => (m.afterRead now k, .value (m.find? now k))
  | .contains k => (m.afterRead now k, .truth (m.find? now k).isSome)
  | .live => (m, .entries (m.liveEntries now))
  | .size => (m, .count m.size)
  | .sweep => (m.sweep now, .count (m.expiredCount now))
  | .clear => (m.clear, .done)

def run (m : ExpiringMap κ ν) (requests : Requests κ ν) : ExpiringMap κ ν :=
  requests.foldl (fun m x => (m.serve x.1 x.2).1) m

/-- What is stored was inserted last for its key, and what was inserted last and is young is stored. -/
structure Tracks (requests : Requests κ ν) (ttl now : Nat) (m : ExpiringMap κ ν) : Prop where
  ttl_eq : m.ttl = ttl
  stored : ∀ {k v expiry}, m.entries.find? k = some (v, expiry) →
    ∃ t, LastInserted requests k v t ∧ expiry = t + ttl
  kept : ∀ {k v t}, LastInserted requests k v t → now < t + ttl →
    m.entries.find? k = some (v, t + ttl)

theorem tracks_empty (ttl now : Nat) : Tracks [] ttl now (empty ttl : ExpiringMap κ ν) where
  ttl_eq := rfl
  stored h := nomatch h
  kept := by
    rintro k v t ⟨before, after, heq, -⟩ -
    simp at heq

theorem Tracks.wait (h : Tracks requests ttl now m) (hle : now ≤ later) :
    Tracks requests ttl later m where
  ttl_eq := h.ttl_eq
  stored := h.stored
  kept hlast hyoung := h.kept hlast (by omega)

/-- A request that is no write may evict what has expired, and nothing else. -/
theorem Tracks.evict (h : Tracks requests ttl now m) (hr : r.isWrite = false) (httl : m'.ttl = m.ttl)
    (hsub : ∀ {k e}, m'.entries.find? k = some e → m.entries.find? k = some e)
    (hlive : ∀ {k e}, m.entries.find? k = some e → live now e = true →
      m'.entries.find? k = some e) : Tracks (requests ++ [(now, r)]) ttl now m' := by
  have hlast : ∀ {k v t}, LastInserted (requests ++ [(now, r)]) k v t ↔ LastInserted requests k v t := by
    intro k v t
    rw [lastInserted_snoc]
    cases r with
    | insert | clear => cases hr
    | _ => simp [Request.Ends]
  refine ⟨httl.trans h.ttl_eq, ?_, ?_⟩
  · intro k v expiry hf
    obtain ⟨t, hl, hexpiry⟩ := h.stored (hsub hf)
    exact ⟨t, hlast.2 hl, hexpiry⟩
  · intro k v t hl hyoung
    exact hlive (h.kept (hlast.1 hl) hyoung) (decide_eq_true hyoung)

theorem Tracks.read (h : Tracks requests ttl now m) (hr : r.isWrite = false) (k : κ) :
    Tracks (requests ++ [(now, r)]) ttl now (m.afterRead now k) := by
  refine h.evict hr (ttl_afterRead _ _) ?_ ?_
  · intro x e hf
    rw [find?_entries_afterRead] at hf
    split at hf
    · exact (Option.filter_eq_some_iff.1 hf).1
    · exact hf
  · intro x e hf hlive
    rw [find?_entries_afterRead, hf]
    split
    · simp [Option.filter, hlive]
    · rfl

theorem Tracks.sweep (h : Tracks requests ttl now m) :
    Tracks (requests ++ [(now, .sweep)]) ttl now (m.sweep now) := by
  refine h.evict rfl rfl ?_ ?_
  · intro k e hf
    rw [find?_entries_sweep] at hf
    exact (Option.filter_eq_some_iff.1 hf).1
  · intro k e hf hlive
    rw [find?_entries_sweep]
    exact Option.filter_eq_some_iff.2 ⟨hf, hlive⟩

theorem Tracks.insert (h : Tracks requests ttl now m) (k : κ) (v : ν) :
    Tracks (requests ++ [(now, .insert k v)]) ttl now (m.insert now k v) := by
  have hfind : ∀ x, (m.insert now k v).entries.find? x =
      if x = k then some (v, now + ttl) else m.entries.find? x := by
    intro x
    rw [← h.ttl_eq]
    exact Table.find?_insert ..
  refine ⟨h.ttl_eq, ?_, ?_⟩
  · intro x w expiry hf
    rw [hfind] at hf
    split at hf
    · rename_i hx
      cases hf
      exact ⟨now, lastInserted_snoc.2 (.inl (by rw [hx])), rfl⟩
    · rename_i hx
      obtain ⟨t, hl, hexpiry⟩ := h.stored hf
      exact ⟨t, lastInserted_snoc.2 (.inr ⟨Ne.symm hx, hl⟩), hexpiry⟩
  · intro x w t hl hyoung
    rw [hfind]
    rcases lastInserted_snoc.1 hl with heq | ⟨hne, hl⟩
    · cases heq
      rw [if_pos rfl]
    · rw [if_neg (Ne.symm hne), h.kept hl hyoung]

theorem Tracks.clear (h : Tracks requests ttl now m) :
    Tracks (requests ++ [(now, .clear)]) ttl now m.clear where
  ttl_eq := h.ttl_eq
  stored hf := nomatch hf
  kept := by
    intro k v t hl
    rcases lastInserted_snoc.1 hl with heq | ⟨hnot, -⟩
    · cases heq
    · exact absurd trivial hnot

theorem Tracks.serve (h : Tracks requests ttl now m) (r : Request κ ν) :
    Tracks (requests ++ [(now, r)]) ttl now (m.serve now r).1 := by
  cases r with
  | insert k v => exact h.insert k v
  | get k => exact h.read rfl k
  | contains k => exact h.read rfl k
  | live => exact h.evict rfl rfl id fun hf _ => hf
  | size => exact h.evict rfl rfl id fun hf _ => hf
  | sweep => exact h.sweep
  | clear => exact h.clear

theorem run_concat (m : ExpiringMap κ ν) (requests : Requests κ ν) (t : Nat) (r : Request κ ν) :
    run m (requests ++ [(t, r)]) = ((run m requests).serve t r).1 := by
  rw [run, List.foldl_append]
  rfl

theorem tracks_run (ttl : Nat) (horder : InOrder requests now) :
    Tracks requests ttl now (run (empty ttl) requests) := by
  induction requests using List.reverseRecOn generalizing now with
  | nil => exact tracks_empty ttl now
  | append_singleton requests x ih =>
    obtain ⟨t, r⟩ := x
    obtain ⟨hbefore, hle⟩ := inOrder_snoc.1 horder
    rw [run_concat]
    exact ((ih hbefore).serve r).wait hle

theorem Tracks.find?_eq_some_iff (h : Tracks requests ttl now m) :
    m.find? now k = some v ↔ ∃ t, LastInserted requests k v t ∧ now < t + ttl := by
  rw [ExpiringMap.find?_eq_some_iff]
  constructor
  · rintro ⟨expiry, hf, hlive⟩
    obtain ⟨t, hlast, rfl⟩ := h.stored hf
    exact ⟨t, hlast, hlive⟩
  · rintro ⟨t, hlast, hyoung⟩
    exact ⟨t + ttl, h.kept hlast hyoung, hyoung⟩

/-- Whatever a map was asked in the order of the clock: a key has the value of its last insertion since the
last clear, as long as that is younger than the lifetime; the live entries are the pairs of these keys and
values, each once; requests that are no writes make no difference to any later answer; what is stored was
inserted last for its key; and a sweep counts the stored entries that have expired, and leaves the live
ones. -/
theorem run_refines (ttl : Nat) (horder : InOrder requests now) :
    let m : ExpiringMap κ ν := run (empty ttl) requests
    (∀ k v, (m.serve now (.get k)).2 = .value (some v) ↔
      ∃ t, LastInserted requests k v t ∧ now < t + ttl) ∧
    (∀ k, (m.serve now (.contains k)).2 = .truth true ↔
      ∃ v t, LastInserted requests k v t ∧ now < t + ttl) ∧
    (∃ l, (m.serve now .live).2 = .entries l ∧ l.Nodup ∧
      ∀ k v, (k, v) ∈ l ↔ ∃ t, LastInserted requests k v t ∧ now < t + ttl) ∧
    (∀ requests' : Requests κ ν, InOrder requests' now →
      (requests'.filter fun x => x.2.isWrite) = requests.filter (fun x => x.2.isWrite) →
      (∀ k, ((run (empty ttl) requests').serve now (.get k)).2 = (m.serve now (.get k)).2) ∧
      ∃ l l', (m.serve now .live).2 = .entries l ∧
        ((run (empty ttl) requests').serve now .live).2 = .entries l' ∧ l'.Perm l) ∧
    (∀ k v expiry, (k, v, expiry) ∈ m.entries.entries →
      ∃ t, LastInserted requests k v t ∧ expiry = t + ttl) ∧
    (m.serve now .sweep).2 = .count (m.entries.entries.countP fun e => decide (e.2.2 ≤ now)) ∧
    ((m.serve now .sweep).1.serve now .size).2 = .count (m.liveEntries now).length := by
  intro m
  have h : Tracks requests ttl now m := tracks_run ttl horder
  have hmem : ∀ k v, (k, v) ∈ m.liveEntries now ↔ ∃ t, LastInserted requests k v t ∧ now < t + ttl :=
    fun k v => mem_liveEntries.trans h.find?_eq_some_iff
  refine ⟨?_, ?_, ⟨_, rfl, nodup_liveEntries m now, hmem⟩, ?_, ?_, ?_, ?_⟩
  · intro k v
    rw [← h.find?_eq_some_iff]
    exact ⟨Answer.value.inj, congrArg Answer.value⟩
  · intro k
    rw [← Option.isSome_iff_exists.trans (exists_congr fun v => h.find?_eq_some_iff)]
    exact ⟨Answer.truth.inj, congrArg Answer.truth⟩
  · intro requests' horder' hwrites
    have h' : Tracks requests' ttl now (run (empty ttl) requests') := tracks_run ttl horder'
    have hfind : ∀ k, (run (empty ttl) requests').find? now k = m.find? now k := by
      intro k
      refine Option.ext fun v => ?_
      rw [h.find?_eq_some_iff, h'.find?_eq_some_iff]
      refine exists_congr fun t => and_congr_left' ?_
      rw [← lastInserted_filter, hwrites, lastInserted_filter]
    refine ⟨fun k => congrArg Answer.value (hfind k), _, _, rfl, rfl, ?_⟩
    rw [List.perm_ext_iff_of_nodup (nodup_liveEntries _ now) (nodup_liveEntries m now)]
    rintro ⟨k, v⟩
    rw [mem_liveEntries, mem_liveEntries, hfind]
  · intro k v expiry hm
    exact h.stored ((m.entries.find?_eq_some_iff k (v, expiry)).2 hm)
  · exact congrArg Answer.count (expiredCount_eq m now)
  · exact congrArg Answer.count (List.length_map ..).symm

/-- An entry is stored at the instant of its expiry, and not seen; one that was inserted anew lives on. -/
theorem refines_at_expiry :
    let requests : Requests Nat Nat :=
      [(0, .insert 1 10), (3, .get 1), (4, .insert 2 20), (5, .insert 1 11), (14, .live)]
    let m := run (empty 10) requests
    InOrder requests 14 ∧ (m.serve 14 .size).2 = .count 2 ∧
      (m.serve 14 (.get 1)).2 = .value (some 11) ∧ (∀ v, (m.serve 14 (.get 2)).2 ≠ .value (some v)) ∧
      (m.serve 14 .sweep).2 = .count 1 := by
  intro requests m
  have horder : InOrder requests 14 := by
    simp [InOrder, requests]
  obtain ⟨hget, -, -, -, -, hsweep, -⟩ := run_refines 10 horder
  have hone : LastInserted requests 1 11 5 :=
    ⟨[(0, .insert 1 10), (3, .get 1), (4, .insert 2 20)], [(14, .live)], rfl, by simp [Request.Ends]⟩
  refine ⟨horder, rfl, (hget 1 11).2 ⟨5, hone, by decide⟩, ?_, hsweep⟩
  intro v hv
  cases hv

end RelayGateway.ExpiringMap
