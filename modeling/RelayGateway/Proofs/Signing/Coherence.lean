import RelayGateway.Proofs.Signing.Moves

/-! # Calls, cells and the registry fit together

The registry loses a cell when a call leaves. What must not happen is that it loses a cell which is
still empty and which somebody still holds, for then a newcomer would be given another cell.
`Coherent` says that this has not happened, along with what is needed to keep it so.
-/
namespace RelayGateway.SignatureCache
variable {c c' : SignatureCache} {id id' : CallId} {call call' : SignatureCall} {cell x : CellId}
variable {key key' : SignatureKey} {k k' : Cell} {signed : SignedRelay} {request : RelayRequest}
variable {app : Application}

/-! ## What leaving and filling change -/

theorem isHeld_iff : c.isHeld cell = true ↔
    ∃ id call, c.calls.find? id = some call ∧ call.stage.cell? = some cell := by
  simp only [isHeld, List.any_eq_true, Table.mem_values_iff, decide_eq_true_eq]
  constructor
  · rintro ⟨call, ⟨id, hc⟩, hs⟩
    exact ⟨id, call, hc, hs⟩
  · rintro ⟨id, call, hc, hs⟩
    exact ⟨call, ⟨id, hc⟩, hs⟩

theorem release_of_none (hc : c.calls.find? id = none) : c.release id = c := by
  unfold release
  rw [hc]

theorem release_of_direct (hc : c.calls.find? id = some call) (hs : call.stage.cell? = none) :
    c.release id = { c with calls := c.calls.erase id } := by
  unfold release
  simp only [hc, hs]

theorem release_of_cell (hc : c.calls.find? id = some call) (hs : call.stage.cell? = some cell) :
    c.release id =
      { c with
        calls := c.calls.erase id
        inflight :=
          if c.inflight.find? call.key = some cell ∧ (((c.cells.find? cell).bind Cell.value).isSome ∨
              ¬ { c with calls := c.calls.erase id }.isHeld cell) then c.inflight.erase call.key
          else c.inflight
        cells :=
          if { c with calls := c.calls.erase id }.isHeld cell then c.cells else c.cells.erase cell } := by
  unfold release
  simp only [hc, hs]

/-- Leaving changes the calls, the cells and the registry, and nothing else. -/
theorem release_eq (c : SignatureCache) (id : CallId) :
    ∃ calls cells inflight, c.release id = { c with calls, cells, inflight } := by
  cases hc : c.calls.find? id with
  | none => exact ⟨c.calls, c.cells, c.inflight, release_of_none hc⟩
  | some call =>
    cases hs : call.stage.cell? with
    | none => exact ⟨c.calls.erase id, c.cells, c.inflight, release_of_direct hc hs⟩
    | some cell => exact ⟨_, _, _, release_of_cell hc hs⟩

@[simp]
theorem config_release : (c.release id).config = c.config := by
  obtain ⟨_, _, _, h⟩ := release_eq c id
  rw [h]

@[simp]
theorem entries_release : (c.release id).entries = c.entries := by
  obtain ⟨_, _, _, h⟩ := release_eq c id
  rw [h]

@[simp]
theorem nextCell_release : (c.release id).nextCell = c.nextCell := by
  obtain ⟨_, _, _, h⟩ := release_eq c id
  rw [h]

theorem find?_calls_release :
    (c.release id).calls.find? id' = if id' = id then none else c.calls.find? id' := by
  cases hc : c.calls.find? id with
  | none =>
    rw [release_of_none hc]
    split
    · rename_i h
      rw [h, hc]
    · rfl
  | some call =>
    cases hs : call.stage.cell? with
    | none => rw [release_of_direct hc hs, Table.find?_erase]
    | some cell => rw [release_of_cell hc hs, Table.find?_erase]

/-- Who is still there after a call has left is another call, and was there before. -/
theorem of_find?_calls_release (h : (c.release id).calls.find? id' = some call) :
    id' ≠ id ∧ c.calls.find? id' = some call := by
  rw [find?_calls_release] at h
  split at h
  · cases h
  · exact ⟨‹_›, h⟩

theorem find?_calls_erase (hn : id' ≠ id) (hc : c.calls.find? id' = some call') :
    (c.calls.erase id).find? id' = some call' := by
  rw [Table.find?_erase, if_neg hn, hc]

theorem of_find?_cells_release (h : (c.release id).cells.find? x = some k) :
    c.cells.find? x = some k := by
  cases hc : c.calls.find? id with
  | none => rwa [release_of_none hc] at h
  | some call =>
    cases hs : call.stage.cell? with
    | none => rwa [release_of_direct hc hs] at h
    | some cell =>
      rw [release_of_cell hc hs] at h
      dsimp only at h
      split at h
      · exact h
      · rw [Table.find?_erase] at h
        split at h
        · cases h
        · exact h

theorem of_find?_inflight_release (h : (c.release id).inflight.find? key = some x) :
    c.inflight.find? key = some x := by
  cases hc : c.calls.find? id with
  | none => rwa [release_of_none hc] at h
  | some call =>
    cases hs : call.stage.cell? with
    | none => rwa [release_of_direct hc hs] at h
    | some cell =>
      rw [release_of_cell hc hs] at h
      dsimp only at h
      split at h
      · rw [Table.find?_erase] at h
        split at h
        · cases h
        · exact h
      · exact h

/-- A cell outlives a call that leaves when another call holds it. -/
theorem find?_cells_release (hn : id' ≠ id) (hc' : c.calls.find? id' = some call')
    (hs' : call'.stage.cell? = some x) : (c.release id).cells.find? x = c.cells.find? x := by
  cases hc : c.calls.find? id with
  | none => rw [release_of_none hc]
  | some call =>
    cases hs : call.stage.cell? with
    | none => rw [release_of_direct hc hs]
    | some cell =>
      rw [release_of_cell hc hs]
      dsimp only
      split
      · rfl
      · rename_i hheld
        rw [Table.find?_erase, if_neg]
        rintro rfl
        exact hheld (isHeld_iff.2 ⟨id', call', find?_calls_erase hn hc', hs'⟩)

/-- A cell stays in the registry when it is empty and another call holds it. -/
theorem find?_inflight_release (hn : id' ≠ id) (hc' : c.calls.find? id' = some call')
    (hs' : call'.stage.cell? = some x) (hk : c.cells.find? x = some k) (he : k.value = none)
    (hi : c.inflight.find? key = some x) : (c.release id).inflight.find? key = some x := by
  cases hc : c.calls.find? id with
  | none => rwa [release_of_none hc]
  | some call =>
    cases hs : call.stage.cell? with
    | none => rwa [release_of_direct hc hs]
    | some cell =>
      rw [release_of_cell hc hs]
      dsimp only
      split
      · rename_i hgone
        rw [Table.find?_erase, if_neg, hi]
        rintro rfl
        obtain rfl : x = cell := Option.some.inj (hi.symm.trans hgone.1)
        rcases hgone.2 with hf | hh
        · simp only [hk, Option.bind_some, he, Option.isSome_none, Bool.false_eq_true] at hf
        · exact hh (isHeld_iff.2 ⟨id', call', find?_calls_erase hn hc', hs'⟩)
      · exact hi

theorem find?_cells_setCell :
    (c.setCell cell k).cells.find? x = if x = cell then some k else c.cells.find? x :=
  Table.find?_insert ..

theorem fill_of_some (hk : c.cells.find? cell = some k) :
    c.fill cell signed = (c.setCell cell ⟨some signed, none, []⟩, k.queue) := by
  unfold fill
  rw [hk]

theorem passTurn_of_some (hk : c.cells.find? cell = some k) :
    c.passTurn cell = (c.setCell cell { k with turn := k.queue.head?, queue := k.queue.tail },
      k.queue.head?.toList) := by
  unfold passTurn
  rw [hk]

@[simp]
theorem config_fill : (c.fill cell signed).1.config = c.config := by
  unfold fill
  split <;> rfl

@[simp]
theorem config_passTurn : (c.passTurn cell).1.config = c.config := by
  unfold passTurn
  split <;> rfl

@[simp]
theorem config_store : (c.store key signed).config = c.config := by
  unfold store
  split <;> rfl

theorem config_cellFor (c : SignatureCache) (key : SignatureKey) :
    (c.cellFor key).1.config = c.config := by
  unfold cellFor
  split <;> rfl

@[simp]
theorem config_enter : (c.enter id request app).config = c.config := by
  unfold enter
  have h := config_cellFor c (SignatureKey.ofRequest request app)
  generalize c.cellFor (SignatureKey.ofRequest request app) = joined at h
  obtain ⟨c', cell⟩ := joined
  dsimp only at h ⊢
  split <;> exact h

theorem calls_cellFor (c : SignatureCache) (key : SignatureKey) :
    (c.cellFor key).1.calls = c.calls := by
  unfold cellFor
  split <;> rfl

theorem entries_cellFor (c : SignatureCache) (key : SignatureKey) :
    (c.cellFor key).1.entries = c.entries := by
  unfold cellFor
  split <;> rfl

@[simp]
theorem entries_enter : (c.enter id request app).entries = c.entries := by
  unfold enter
  have h := entries_cellFor c (SignatureKey.ofRequest request app)
  generalize c.cellFor (SignatureKey.ofRequest request app) = joined at h
  obtain ⟨c', cell⟩ := joined
  dsimp only at h ⊢
  split <;> exact h

theorem find?_calls_enter :
    (c.enter id request app).calls.find? id' = if id' = id then
      some ⟨request, app, .waiting (c.cellFor (SignatureKey.ofRequest request app)).2⟩
    else c.calls.find? id' := by
  unfold enter
  have h := calls_cellFor c (SignatureKey.ofRequest request app)
  generalize c.cellFor (SignatureKey.ofRequest request app) = joined at h ⊢
  obtain ⟨c', cell⟩ := joined
  dsimp only at h ⊢
  rw [← h, ← Table.find?_insert]
  split <;> rfl

theorem find?_calls_enter_self : (c.enter id request app).calls.find? id =
    some ⟨request, app, .waiting (c.cellFor (SignatureKey.ofRequest request app)).2⟩ := by
  rw [find?_calls_enter, if_pos rfl]

@[simp]
theorem config_recheck {seen : Option SignedRelay} :
    (c.recheck id call cell seen).cache.config = c.config := by
  cases seen with
  | some signed => exact config_release.trans config_fill
  | none => rfl

@[simp]
theorem config_cancel : (c.cancel id).1.config = c.config := by
  unfold cancel
  cases c.calls.find? id with
  | none => rfl
  | some call =>
    dsimp only
    cases call.stage.cell? with
    | none => exact config_release
    | some cell =>
      dsimp only
      cases c.cells.find? cell with
      | none => exact config_release
      | some k =>
        dsimp only
        split
        · exact config_release.trans config_passTurn
        · exact config_release

theorem recheck_some (hk : c.cells.find? cell = some k) :
    c.recheck id call cell (some signed) =
      ⟨((c.setCell cell ⟨some signed, none, []⟩).release id).countHit, .done (.ok signed), k.queue⟩ := by
  unfold recheck
  simp only [fill_of_some hk]

/-- A signature that has been computed is stored and shared. -/
theorem finish_of_ok (hretains : c.config.retains = true) (hc : c.calls.find? id = some call)
    (hs : call.stage = .computing cell) (hk : c.cells.find? cell = some k) :
    c.finish id (.ok signed) =
      ⟨((setCell { c with entries := c.entries.insert call.key signed } cell
        ⟨some signed, none, []⟩).release id).countMiss, .done (.ok signed), k.queue⟩ := by
  have hk' : { c with entries := c.entries.insert call.key signed }.cells.find? cell = some k := hk
  unfold finish
  simp only [hc, hs, store, hretains, if_true, fill_of_some hk']

/-- A computation that has failed passes the turn on. -/
theorem finish_of_error {e : SignerError} (hc : c.calls.find? id = some call)
    (hs : call.stage = .computing cell) (hk : c.cells.find? cell = some k) :
    c.finish id (.error e) =
      ⟨(c.setCell cell { k with turn := k.queue.head?, queue := k.queue.tail }).release id,
        .done (.error e), k.queue.head?.toList⟩ := by
  unfold finish
  simp only [hc, hs, passTurn_of_some hk]

theorem cancel_of_none (hc : c.calls.find? id = none) : (c.cancel id).1 = c := by
  unfold cancel
  simp only [hc]

theorem cancel_of_direct (hc : c.calls.find? id = some call) (hs : call.stage.cell? = none) :
    (c.cancel id).1 = c.release id := by
  unfold cancel
  simp only [hc, hs]

theorem cancel_of_turn (hc : c.calls.find? id = some call) (hs : call.stage.cell? = some cell)
    (hk : c.cells.find? cell = some k) (ht : k.turn = some id) :
    (c.cancel id).1 =
      (c.setCell cell { k with turn := k.queue.head?, queue := k.queue.tail }).release id := by
  unfold cancel
  simp only [hc, hs, hk, ht, if_true, passTurn_of_some hk]

theorem cancel_of_cell (hc : c.calls.find? id = some call) (hs : call.stage.cell? = some cell)
    (hk : c.cells.find? cell = some k) (ht : k.turn ≠ some id) :
    (c.cancel id).1 = (c.setCell cell { k with queue := k.queue.filter (· ≠ id) }).release id := by
  unfold cancel
  simp only [hc, hs, hk, ht, if_false]

/-! ## Coherence -/

structure Coherent (c : SignatureCache) : Prop where
  /-- Cells are numbered in the order in which they are made. -/
  numbered : ∀ {cell k}, c.cells.find? cell = some k → cell < c.nextCell
  /-- A registered cell exists. -/
  registered : ∀ {key cell}, c.inflight.find? key = some cell → ∃ k, c.cells.find? cell = some k
  /-- No cell is registered for two keys. -/
  separate : ∀ {key key' cell}, c.inflight.find? key = some cell →
    c.inflight.find? key' = some cell → key = key'
  /-- A call holds a cell that exists. -/
  held : ∀ {id call cell}, c.calls.find? id = some call → call.stage.cell? = some cell →
    ∃ k, c.cells.find? cell = some k
  /-- A cell that is held and registered is registered for the key of its holder. -/
  own : ∀ {id call cell key}, c.calls.find? id = some call → call.stage.cell? = some cell →
    c.inflight.find? key = some cell → call.key = key
  /-- Newcomers join a cell for as long as it is held and empty. -/
  joined : ∀ {id call cell k}, c.calls.find? id = some call → call.stage.cell? = some cell →
    c.cells.find? cell = some k → k.value = none → c.inflight.find? call.key = some cell

theorem coherent_new (config : SignatureCacheConfig) : Coherent (new config) where
  numbered h := nomatch h
  registered h := nomatch h
  separate h := nomatch h
  held h := nomatch h
  own h := nomatch h
  joined h := nomatch h

/-- Coherence depends on the cells, the calls and the registry alone. -/
theorem Coherent.of_eq (h : Coherent c) (hcells : c'.cells = c.cells) (hcalls : c'.calls = c.calls)
    (hinflight : c'.inflight = c.inflight) (hnext : c'.nextCell = c.nextCell) : Coherent c' := by
  obtain ⟨_, _, _, _, _, _, _, _⟩ := c
  obtain ⟨_, _, _, _, _, _, _, _⟩ := c'
  subst hcells hcalls hinflight hnext
  exact ⟨h.numbered, h.registered, h.separate, h.held, h.own, h.joined⟩

/-- A cell may change as long as it is not emptied. -/
theorem Coherent.setCell (h : Coherent c) (hk : c.cells.find? cell = some k)
    (he : k'.value = none → k.value = none) : Coherent (c.setCell cell k') where
  numbered := by
    intro x y hx
    rw [find?_cells_setCell] at hx
    split at hx
    · rename_i heq
      rw [heq]
      exact h.numbered hk
    · exact h.numbered hx
  registered := by
    intro key x hi
    obtain ⟨y, hy⟩ := h.registered hi
    rw [find?_cells_setCell]
    split
    · exact ⟨k', rfl⟩
    · exact ⟨y, hy⟩
  separate := h.separate
  held := by
    intro id call x hc hs
    obtain ⟨y, hy⟩ := h.held hc hs
    rw [find?_cells_setCell]
    split
    · exact ⟨k', rfl⟩
    · exact ⟨y, hy⟩
  own := h.own
  joined := by
    intro id call x y hc hs hx hv
    rw [find?_cells_setCell] at hx
    split at hx
    · rename_i heq
      cases hx
      rw [← heq] at hk
      exact h.joined hc hs hk (he hv)
    · exact h.joined hc hs hx hv

/-- A call may be anywhere on the cell that is registered for its key. -/
theorem Coherent.addCall (h : Coherent c) (hi : c.inflight.find? call.key = some cell)
    (hs : call.stage.cell? = some cell) : Coherent { c with calls := c.calls.insert id call } where
  numbered := h.numbered
  registered := h.registered
  separate := h.separate
  held := by
    intro id' call' x hc' hs'
    dsimp only at hc'
    rw [Table.find?_insert] at hc'
    split at hc'
    · cases hc'
      cases hs.symm.trans hs'
      exact h.registered hi
    · exact h.held hc' hs'
  own := by
    intro id' call' x key hc' hs' hx
    dsimp only at hc'
    rw [Table.find?_insert] at hc'
    split at hc'
    · cases hc'
      cases hs.symm.trans hs'
      exact h.separate hi hx
    · exact h.own hc' hs' hx
  joined := by
    intro id' call' x k hc' hs' hk hv
    dsimp only at hc'
    rw [Table.find?_insert] at hc'
    split at hc'
    · cases hc'
      cases hs.symm.trans hs'
      exact hi
    · exact h.joined hc' hs' hk hv

/-- A call past the cells takes no part. -/
theorem Coherent.addDirect (h : Coherent c) (hs : call.stage.cell? = none) :
    Coherent { c with calls := c.calls.insert id call } where
  numbered := h.numbered
  registered := h.registered
  separate := h.separate
  held := by
    intro id' call' x hc' hs'
    dsimp only at hc'
    rw [Table.find?_insert] at hc'
    split at hc'
    · cases hc'
      cases hs.symm.trans hs'
    · exact h.held hc' hs'
  own := by
    intro id' call' x key hc' hs' hx
    dsimp only at hc'
    rw [Table.find?_insert] at hc'
    split at hc'
    · cases hc'
      cases hs.symm.trans hs'
    · exact h.own hc' hs' hx
  joined := by
    intro id' call' x k hc' hs' hk hv
    dsimp only at hc'
    rw [Table.find?_insert] at hc'
    split at hc'
    · cases hc'
      cases hs.symm.trans hs'
    · exact h.joined hc' hs' hk hv

/-- The number of the next cell is free. -/
theorem Coherent.fresh (h : Coherent c) : c.cells.find? c.nextCell = none := by
  cases hk : c.cells.find? c.nextCell with
  | none => rfl
  | some k => exact absurd (h.numbered hk) (Nat.lt_irrefl _)

theorem Coherent.find?_cells_of_some (h : Coherent c) (hk : c.cells.find? x = some k)
    (k' : Cell) : (c.cells.insert c.nextCell k').find? x = some k := by
  rw [Table.find?_insert, if_neg, hk]
  exact fun he => absurd (h.numbered hk) (he ▸ Nat.lt_irrefl _)

theorem find?_inflight_cellFor (c : SignatureCache) (key : SignatureKey) :
    (c.cellFor key).1.inflight.find? key = some (c.cellFor key).2 := by
  unfold cellFor
  cases hi : c.inflight.find? key with
  | some cell => exact hi
  | none => exact Table.find?_insert_self ..

theorem Coherent.cellFor (h : Coherent c) (key : SignatureKey) : Coherent (c.cellFor key).1 := by
  unfold SignatureCache.cellFor
  cases hi : c.inflight.find? key with
  | some cell => exact h
  | none =>
    have hfree : ∀ {key'}, c.inflight.find? key' ≠ some c.nextCell := by
      intro key' hk'
      obtain ⟨k, hk⟩ := h.registered hk'
      rw [h.fresh] at hk
      cases hk
    constructor
    · intro x k hx
      dsimp only at hx ⊢
      rw [Table.find?_insert] at hx
      split at hx
      · rename_i heq
        rw [heq]
        exact Nat.lt_succ_self _
      · exact Nat.lt_succ_of_lt (h.numbered hx)
    · intro key' x hx
      dsimp only at hx ⊢
      rw [Table.find?_insert] at hx
      split at hx
      · cases hx
        exact ⟨_, Table.find?_insert_self ..⟩
      · obtain ⟨k, hk⟩ := h.registered hx
        exact ⟨k, h.find?_cells_of_some hk _⟩
    · intro key₁ key₂ x h₁ h₂
      dsimp only at h₁ h₂
      rw [Table.find?_insert] at h₁ h₂
      split at h₁ <;> split at h₂
      · rw [‹key₁ = key›, ‹key₂ = key›]
      · cases h₁
        exact absurd h₂ hfree
      · cases h₂
        exact absurd h₁ hfree
      · exact h.separate h₁ h₂
    · intro id call x hc hs
      obtain ⟨k, hk⟩ := h.held hc hs
      exact ⟨k, h.find?_cells_of_some hk _⟩
    · intro id call x key' hc hs hx
      dsimp only at hc hx
      rw [Table.find?_insert] at hx
      split at hx
      · cases hx
        obtain ⟨k, hk⟩ := h.held hc hs
        rw [h.fresh] at hk
        cases hk
      · exact h.own hc hs hx
    · intro id call x k hc hs hk hv
      dsimp only at hc hk ⊢
      obtain ⟨k', hk'⟩ := h.held hc hs
      rw [h.find?_cells_of_some hk'] at hk
      cases hk
      have hreg := h.joined hc hs hk' hv
      rw [Table.find?_insert, if_neg, hreg]
      rintro rfl
      rw [hi] at hreg
      cases hreg

/-- Leaving is safe: the registry keeps every cell that is empty and still held. -/
theorem Coherent.release (h : Coherent c) (id : CallId) : Coherent (c.release id) where
  numbered := by
    intro x k hx
    rw [nextCell_release]
    exact h.numbered (of_find?_cells_release hx)
  registered := by
    intro key x hx
    have hreg := of_find?_inflight_release hx
    obtain ⟨k, hk⟩ := h.registered hreg
    refine ⟨k, ?_⟩
    cases hc : c.calls.find? id with
    | none => rwa [release_of_none hc]
    | some call =>
      cases hs : call.stage.cell? with
      | none => rwa [release_of_direct hc hs]
      | some cell =>
        rw [release_of_cell hc hs] at hx ⊢
        dsimp only at hx ⊢
        split
        · exact hk
        · rename_i hheld
          rw [Table.find?_erase, if_neg, hk]
          rintro rfl
          obtain rfl := h.own hc hs hreg
          rw [if_pos ⟨hreg, .inr hheld⟩, Table.find?_erase, if_pos rfl] at hx
          cases hx
  separate h₁ h₂ := h.separate (of_find?_inflight_release h₁) (of_find?_inflight_release h₂)
  held := by
    intro id' call' x hc hs
    obtain ⟨hn, hc⟩ := of_find?_calls_release hc
    rw [find?_cells_release hn hc hs]
    exact h.held hc hs
  own hc hs hx := h.own (of_find?_calls_release hc).2 hs (of_find?_inflight_release hx)
  joined := by
    intro id' call' x k hc hs hk hv
    obtain ⟨hn, hc⟩ := of_find?_calls_release hc
    rw [find?_cells_release hn hc hs] at hk
    exact find?_inflight_release hn hc hs hk hv (h.joined hc hs hk hv)

theorem Coherent.sweep (h : Coherent c) : Coherent c.sweep where
  numbered := h.numbered
  registered := by
    intro key x hx
    rw [SignatureCache.sweep, Table.find?_filter, Option.filter_eq_some_iff] at hx
    exact h.registered hx.1
  separate := by
    intro key₁ key₂ x h₁ h₂
    rw [SignatureCache.sweep, Table.find?_filter, Option.filter_eq_some_iff] at h₁ h₂
    exact h.separate h₁.1 h₂.1
  held := h.held
  own := by
    intro id call x key hc hs hx
    rw [SignatureCache.sweep, Table.find?_filter, Option.filter_eq_some_iff] at hx
    exact h.own hc hs hx.1
  joined := by
    intro id call x k hc hs hk hv
    rw [SignatureCache.sweep, Table.find?_filter, Option.filter_eq_some_iff]
    refine ⟨h.joined hc hs hk hv, ?_⟩
    have hk' : c.cells.find? x = some k := hk
    rw [hk', Option.bind_some, hv]
    rfl

end RelayGateway.SignatureCache
