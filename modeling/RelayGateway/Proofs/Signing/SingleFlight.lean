import RelayGateway.Proofs.Signing.Coherence

/-! # Single flight

Two calls that compute for one key would both stand on the cell that is registered for it, and both
have its turn.
-/
namespace RelayGateway.SignatureCache
variable {c c' : SignatureCache} {id id' : CallId} {call call' : SignatureCall} {cell x : CellId}
variable {key : SignatureKey} {k k' : Cell} {event : Event} {events : List Event}

def HasTurn (c : SignatureCache) (id : CallId) (cell : CellId) : Prop :=
  ∃ k, c.cells.find? cell = some k ∧ k.value = none ∧ k.turn = some id

def isComputing (call : SignatureCall) : Bool :=
  match call.stage with
  | .waiting _ => false
  | .computing _ => true
  | .direct => true

theorem isComputing_of_stage (h : call.stage = .computing cell) : isComputing call = true := by
  unfold isComputing
  rw [h]

theorem not_isComputing_of_stage (h : call.stage = .waiting cell) : isComputing call = false := by
  unfold isComputing
  rw [h]

theorem isComputing_of_direct (h : call.stage = .direct) : isComputing call = true := by
  unfold isComputing
  rw [h]

/-- The call of a computation that has ended is given what the computation has come to. -/
theorem finish_done (hc : c.calls.find? id = some call) (computing : isComputing call = true)
    (result : Except SignerError SignedRelay) : (c.finish id result).progress = .done result := by
  unfold finish
  rw [hc]
  dsimp only
  cases hs : call.stage with
  | waiting cell => cases computing.symm.trans (not_isComputing_of_stage hs)
  | direct => rfl
  | computing cell => cases result <;> rfl

def computing (c : SignatureCache) (key : SignatureKey) : List CallId :=
  (c.calls.filter fun _ call => isComputing call && decide (call.key = key)).keys

structure Orderly (c : SignatureCache) : Prop extends Coherent c where
  /-- Whoever computes on a cell has its turn. -/
  turns : ∀ {id call cell}, c.calls.find? id = some call → call.stage = .computing cell →
    c.HasTurn id cell
  /-- Nobody computes past a cache that is enabled. -/
  shared : c.config.enabled = true → ∀ {id call}, c.calls.find? id = some call →
    call.stage ≠ .direct

theorem orderly_new (config : SignatureCacheConfig) : Orderly (new config) where
  toCoherent := coherent_new config
  turns h := nomatch h
  shared _ _ _ h := nomatch h

theorem Orderly.of_eq (h : Orderly c) (hconfig : c'.config = c.config) (hcells : c'.cells = c.cells)
    (hcalls : c'.calls = c.calls) (hinflight : c'.inflight = c.inflight)
    (hnext : c'.nextCell = c.nextCell) : Orderly c' where
  toCoherent := h.toCoherent.of_eq hcells hcalls hinflight hnext
  turns := by
    intro id call cell hc hs
    rw [hcalls] at hc
    unfold HasTurn
    rw [hcells]
    exact h.turns hc hs
  shared := by
    intro henabled id call hc
    rw [hconfig] at henabled
    rw [hcalls] at hc
    exact h.shared henabled hc

theorem Orderly.release (h : Orderly c) (id : CallId) : Orderly (c.release id) where
  toCoherent := h.toCoherent.release id
  turns := by
    intro id' call' x hc hs
    obtain ⟨hn, hc⟩ := of_find?_calls_release hc
    have hcell : call'.stage.cell? = some x := by rw [hs]; rfl
    unfold HasTurn
    rw [find?_cells_release hn hc hcell]
    exact h.turns hc hs
  shared := by
    intro henabled id' call' hc
    rw [config_release] at henabled
    exact h.shared henabled (of_find?_calls_release hc).2

/-- A cell may change as long as its turn and its value do not. -/
theorem Orderly.setCell (h : Orderly c) (hk : c.cells.find? cell = some k)
    (hv : k'.value = k.value) (ht : k'.turn = k.turn) : Orderly (c.setCell cell k') where
  toCoherent := h.toCoherent.setCell hk fun he => hv ▸ he
  turns := by
    intro id call x hc hs
    obtain ⟨k₀, hk₀, hv₀, ht₀⟩ := h.turns hc hs
    unfold HasTurn
    rw [find?_cells_setCell]
    split
    · rename_i heq
      rw [heq, hk] at hk₀
      cases hk₀
      exact ⟨k', rfl, hv.trans hv₀, ht.trans ht₀⟩
    · exact ⟨k₀, hk₀, hv₀, ht₀⟩
  shared := h.shared

/-- A free turn can be given to anyone. -/
theorem Orderly.giveTurn (h : Orderly c) (hk : c.cells.find? cell = some k) (ht : k.turn = none)
    (he : k'.value = none → k.value = none) : Orderly (c.setCell cell k') where
  toCoherent := h.toCoherent.setCell hk he
  turns := by
    intro id call x hc hs
    obtain ⟨k₀, hk₀, hv₀, ht₀⟩ := h.turns hc hs
    unfold HasTurn
    rw [find?_cells_setCell, if_neg]
    · exact ⟨k₀, hk₀, hv₀, ht₀⟩
    · rintro rfl
      rw [hk] at hk₀
      cases hk₀
      rw [ht] at ht₀
      cases ht₀
  shared := h.shared

/-- The call that has the turn may fill the cell or pass the turn on, when it then leaves. -/
theorem Orderly.setCell_release (h : Orderly c) (hk : c.cells.find? cell = some k)
    (ht : k.turn = some id) (he : k'.value = none → k.value = none) :
    Orderly ((c.setCell cell k').release id) where
  toCoherent := (h.toCoherent.setCell hk he).release id
  turns := by
    intro id' call' x hc hs
    obtain ⟨hn, hc⟩ := of_find?_calls_release hc
    have hcell : call'.stage.cell? = some x := by rw [hs]; rfl
    unfold HasTurn
    rw [find?_cells_release hn hc hcell, find?_cells_setCell, if_neg]
    · exact h.turns hc hs
    · rintro rfl
      obtain ⟨k₀, hk₀, -, ht₀⟩ := h.turns hc hs
      rw [hk] at hk₀
      cases hk₀
      rw [ht] at ht₀
      cases ht₀
      exact hn rfl
  shared := by
    intro henabled id' call' hc
    rw [config_release] at henabled
    exact h.shared henabled (of_find?_calls_release hc).2

/-- A call that has the turn may start to compute, and one that only waits may be added. -/
theorem Orderly.addCall (h : Orderly c) (hi : c.inflight.find? call.key = some cell)
    (hs : call.stage = .waiting cell ∨ call.stage = .computing cell ∧ c.HasTurn id cell) :
    Orderly { c with calls := c.calls.insert id call } where
  toCoherent := by
    refine h.toCoherent.addCall hi ?_
    rcases hs with hs | ⟨hs, -⟩ <;> rw [hs] <;> rfl
  turns := by
    intro id' call' x hc hs'
    dsimp only at hc
    rw [Table.find?_insert] at hc
    split at hc
    · rename_i heq
      cases hc
      rcases hs with hs | ⟨hs, ht⟩
      · rw [hs] at hs'
        cases hs'
      · rw [hs] at hs'
        cases hs'
        rw [heq]
        exact ht
    · exact h.turns hc hs'
  shared := by
    intro henabled id' call' hc
    dsimp only at hc
    rw [Table.find?_insert] at hc
    split at hc
    · cases hc
      intro hdirect
      rcases hs with hs | ⟨hs, -⟩
      · cases hs.symm.trans hdirect
      · cases hs.symm.trans hdirect
    · exact h.shared henabled hc

/-- A call may compute past a disabled cache. -/
theorem Orderly.addDirect (h : Orderly c) (disabled : c.config.enabled = false)
    (hs : call.stage = .direct) : Orderly { c with calls := c.calls.insert id call } where
  toCoherent := h.toCoherent.addDirect (by rw [hs]; rfl)
  turns := by
    intro id' call' x hc hs'
    dsimp only at hc
    rw [Table.find?_insert] at hc
    split at hc
    · cases hc
      cases hs.symm.trans hs'
    · exact h.turns hc hs'
  shared := by
    intro henabled
    cases disabled.symm.trans henabled

theorem Orderly.cellFor (h : Orderly c) (key : SignatureKey) : Orderly (c.cellFor key).1 where
  toCoherent := h.toCoherent.cellFor key
  turns := by
    unfold SignatureCache.cellFor
    cases c.inflight.find? key with
    | some cell => exact h.turns
    | none =>
      intro id call cell hc hs
      obtain ⟨k, hk, hv, ht⟩ := h.turns hc hs
      exact ⟨k, h.find?_cells_of_some hk _, hv, ht⟩
  shared := by
    unfold SignatureCache.cellFor
    cases c.inflight.find? key <;> exact h.shared

theorem Orderly.enter (h : Orderly c) (id : CallId) (request : RelayRequest) (app : Application) :
    Orderly (c.enter id request app) := by
  unfold SignatureCache.enter
  have hc := h.cellFor (SignatureKey.ofRequest request app)
  have hi := find?_inflight_cellFor c (SignatureKey.ofRequest request app)
  generalize c.cellFor (SignatureKey.ofRequest request app) = joined at hc hi
  obtain ⟨c', cell⟩ := joined
  have hadd : Orderly { c' with calls := c'.calls.insert id ⟨request, app, .waiting cell⟩ } :=
    hc.addCall hi (.inl rfl)
  dsimp only at hadd ⊢
  split
  · rename_i queue hk
    exact hadd.giveTurn hk rfl fun _ => rfl
  · rename_i turn queue hk
    exact hadd.setCell hk rfl rfl
  · exact hadd

theorem Orderly.recheck (h : Orderly c) (seen : Option SignedRelay)
    (hc : c.calls.find? id = some call) (hs : call.stage = .waiting cell)
    (hk : c.cells.find? cell = some k) (hv : k.value = none) (ht : k.turn = some id) :
    Orderly (c.recheck id call cell seen).cache := by
  cases seen with
  | some signed =>
    rw [recheck_some hk]
    refine (h.setCell_release hk ht ?_).of_eq rfl rfl rfl rfl rfl
    intro he
    cases he
  | none =>
    have hi := h.joined hc (by rw [hs]; rfl) hk hv
    exact h.addCall hi (.inr ⟨rfl, k, hk, hv, ht⟩)

theorem Orderly.cancel (h : Orderly c) (id : CallId) : Orderly (c.cancel id).1 := by
  cases hc : c.calls.find? id with
  | none => rwa [cancel_of_none hc]
  | some call =>
    cases hs : call.stage.cell? with
    | none =>
      rw [cancel_of_direct hc hs]
      exact h.release id
    | some cell =>
      obtain ⟨k, hk⟩ := h.held hc hs
      by_cases ht : k.turn = some id
      · rw [cancel_of_turn hc hs hk ht]
        exact h.setCell_release hk ht fun he => he
      · rw [cancel_of_cell hc hs hk ht]
        refine (h.setCell hk ?_ ?_).release id <;> rfl

theorem Move.orderly (move : Move c event c') (h : Orderly c) : Orderly c' := by
  cases move with
  | bypass disabled new => exact h.addDirect disabled rfl
  | leave found stage => exact h.release _
  | hit enabled meant => exact h.of_eq rfl rfl rfl rfl rfl
  | enter enabled new => exact h.enter _ _ _
  | adopt found stage shared filled => exact (h.release _).of_eq rfl rfl rfl rfl rfl
  | recheck seen found stage shared empty turn => exact h.recheck seen found stage shared empty turn
  | keep signed found stage =>
    unfold SignatureCache.store
    split
    · exact h.of_eq rfl rfl rfl rfl rfl
    · exact h
  | fill signed found stage =>
    obtain ⟨k, hk, hv, ht⟩ := h.turns found stage
    rw [fill_of_some hk]
    refine (h.setCell_release hk ht ?_).of_eq rfl rfl rfl rfl rfl
    intro he
    cases he
  | fail e found stage =>
    obtain ⟨k, hk, hv, ht⟩ := h.turns found stage
    rw [passTurn_of_some hk]
    exact h.setCell_release hk ht fun he => he
  | cancel id => exact h.cancel id
  | evict key => exact h.of_eq rfl rfl rfl rfl rfl
  | clear => exact h.of_eq rfl rfl rfl rfl rfl
  | sweep => exact ⟨h.toCoherent.sweep, h.turns, h.shared⟩

theorem Run.orderly (run : Run c events c') (h : Orderly c) : Orderly c' := by
  induction run with
  | refl => exact h
  | snoc _ move ih => exact move.orderly ih

theorem Orderly.stage_of_computing (h : Orderly c) (henabled : c.config.enabled = true)
    (hc : c.calls.find? id = some call) (hs : isComputing call = true) :
    ∃ cell, call.stage = .computing cell := by
  have hdirect := h.shared henabled hc
  cases hstage : call.stage with
  | waiting cell => cases hs.symm.trans (not_isComputing_of_stage hstage)
  | computing cell => exact ⟨cell, rfl⟩
  | direct => exact absurd hstage hdirect

/-- Calls that compute for one key have the turn of one cell. -/
theorem Orderly.eq_of_computing (h : Orderly c) (henabled : c.config.enabled = true)
    (hc : c.calls.find? id = some call) (hs : isComputing call = true)
    (hc' : c.calls.find? id' = some call') (hs' : isComputing call' = true)
    (hkey : call.key = call'.key) : id = id' := by
  obtain ⟨cell, hstage⟩ := h.stage_of_computing henabled hc hs
  obtain ⟨cell', hstage'⟩ := h.stage_of_computing henabled hc' hs'
  obtain ⟨k, hk, hv, ht⟩ := h.turns hc hstage
  obtain ⟨k', hk', hv', ht'⟩ := h.turns hc' hstage'
  have hi := h.joined hc (by rw [hstage]; rfl) hk hv
  have hi' := h.joined hc' (by rw [hstage']; rfl) hk' hv'
  rw [hkey, hi'] at hi
  cases hi
  rw [hk'] at hk
  cases hk
  rw [ht'] at ht
  cases ht
  rfl

theorem Move.config (move : Move c event c') : c'.config = c.config := by
  cases move with
  | bypass | leave | hit | evict | clear | sweep => first | rfl | exact config_release
  | enter enabled new => exact config_enter
  | adopt found stage shared filled => exact config_release
  | recheck seen found stage shared empty turn => exact config_recheck
  | keep signed found stage => exact config_store
  | fill signed found stage => exact config_release.trans config_fill
  | fail e found stage => exact config_release.trans config_passTurn
  | cancel id => exact config_cancel

theorem Run.config (run : Run c events c') : c'.config = c.config := by
  induction run with
  | refl => rfl
  | snoc _ move ih => rw [move.config, ih]

theorem mem_computing : id ∈ c.computing key ↔
    ∃ call, c.calls.find? id = some call ∧ isComputing call = true ∧ call.key = key := by
  unfold computing
  rw [Table.mem_keys_iff]
  simp only [Table.find?_filter, Option.filter_eq_some_iff, Bool.and_eq_true, decide_eq_true_eq]

/-- At every moment of every run at most one computation for a key is in progress. -/
theorem Run.single_flight {config : SignatureCacheConfig} (run : Run (new config) events c)
    (henabled : config.enabled = true) (key : SignatureKey) : (c.computing key).length ≤ 1 := by
  have h := run.orderly (orderly_new config)
  have hconfig : c.config.enabled = true := by rw [run.config]; exact henabled
  have hnodup : (c.computing key).Nodup := Table.distinct _
  cases hl : c.computing key with
  | nil => exact Nat.zero_le _
  | cons id rest =>
    cases rest with
    | nil => exact Nat.le_refl _
    | cons id' rest =>
      obtain ⟨call, hc, hs, hkey⟩ := mem_computing.1 (hl ▸ List.mem_cons_self)
      obtain ⟨call', hc', hs', hkey'⟩ :=
        mem_computing.1 (hl ▸ List.mem_cons_of_mem id List.mem_cons_self)
      obtain rfl := h.eq_of_computing hconfig hc hs hc' hs' (hkey.trans hkey'.symm)
      rw [hl] at hnodup
      exact absurd List.mem_cons_self (List.nodup_cons.1 hnodup).1

/-- A second call for the same data does not start to compute beside the first. -/
theorem single_flight_second_call :
    let cache := (((new default).enter 0 default default).recheck 0
      ⟨default, default, .waiting 0⟩ 0 none).cache.enter 1 default default
    Run (new default) [.enter 0 default default, .recheck 0 none, .enter 1 default default] cache ∧
      (default : SignatureCacheConfig).enabled = true ∧
      0 ∈ cache.computing (SignatureKey.ofRequest default default) ∧
      (cache.computing (SignatureKey.ofRequest default default)).length ≤ 1 := by
  intro cache
  have run : Run (new default)
      [.enter 0 default default, .recheck 0 none, .enter 1 default default] cache :=
    .snoc (.snoc (.snoc (.refl _) (.enter rfl rfl)) (.recheck none rfl rfl rfl rfl rfl)) (.enter rfl rfl)
  refine ⟨run, rfl, mem_computing.2 ⟨⟨default, default, .computing 0⟩, ?_, rfl, rfl⟩,
    run.single_flight rfl _⟩
  rw [find?_calls_enter]
  rfl

end RelayGateway.SignatureCache
