import RelayGateway.Proofs.Signing.SingleFlight

/-! # What holds of the signatures in the cache

Signatures come into the cache with the computations that have succeeded, and go from the store to the
cells, each under its key. So what holds of every signature that is computed for a key holds of every
signature that the cache gives out for that key, however the calls interleave.
-/
namespace RelayGateway.SignatureCache
variable {c c' : SignatureCache} {id id' : CallId} {call : SignatureCall} {cell : CellId} {k k' : Cell}
variable {P P' : SignatureKey → SignedRelay → Prop} {key : SignatureKey} {signed : SignedRelay}
variable {request : RelayRequest} {app : Application} {result : Except SignerError SignedRelay}

/-- `P` holds of the signatures in the cache and the keys they are given out for. -/
structure Vouched (P : SignatureKey → SignedRelay → Prop) (c : SignatureCache) : Prop where
  stored : ∀ {key signed}, c.entries.find? key = some signed → P key signed
  /-- What a call can take from its cell. -/
  held : ∀ {id call cell k signed}, c.calls.find? id = some call → call.stage.cell? = some cell →
    c.cells.find? cell = some k → k.value = some signed → P call.key signed
  /-- What a newcomer would find in the cell of its key. -/
  registered : ∀ {key cell k signed}, c.inflight.find? key = some cell →
    c.cells.find? cell = some k → k.value = some signed → P key signed

theorem vouched_new (config : SignatureCacheConfig) : Vouched P (new config) where
  stored h := nomatch h
  held h := nomatch h
  registered h := nomatch h

theorem Vouched.mono (h : Vouched P c) (himp : ∀ {key signed}, P key signed → P' key signed) :
    Vouched P' c where
  stored he := himp (h.stored he)
  held hc hs hk hv := himp (h.held hc hs hk hv)
  registered hi hk hv := himp (h.registered hi hk hv)

theorem Vouched.release (h : Vouched P c) (id : CallId) : Vouched P (c.release id) where
  stored he := h.stored (entries_release ▸ he)
  held hc hs hk hv := h.held (of_find?_calls_release hc).2 hs (of_find?_cells_release hk) hv
  registered hi hk hv := h.registered (of_find?_inflight_release hi) (of_find?_cells_release hk) hv

theorem Vouched.evict (h : Vouched P c) (key : SignatureKey) : Vouched P (c.evict key) where
  stored := by
    intro key' signed he
    unfold SignatureCache.evict at he
    rw [Table.find?_erase] at he
    split at he
    · cases he
    · exact h.stored he
  held := h.held
  registered := h.registered

theorem Vouched.clear (h : Vouched P c) : Vouched P c.clear where
  stored he := nomatch he
  held := h.held
  registered := h.registered

theorem Vouched.sweep (h : Vouched P c) : Vouched P c.sweep where
  stored := h.stored
  held := h.held
  registered := by
    intro key cell k signed hi hk hv
    rw [SignatureCache.sweep, Table.find?_filter, Option.filter_eq_some_iff] at hi
    exact h.registered hi.1 hk hv

/-- A cell may change as long as its value does not. -/
theorem Vouched.setCell (h : Vouched P c) (hk : c.cells.find? cell = some k) (hv : k'.value = k.value) :
    Vouched P (c.setCell cell k') where
  stored := h.stored
  held := by
    intro id call x y signed hc hs hx hy
    rw [find?_cells_setCell] at hx
    split at hx
    · rename_i heq
      cases hx
      exact h.held hc (heq ▸ hs) hk (hv.symm.trans hy)
    · exact h.held hc hs hx hy
  registered := by
    intro key x y signed hi hx hy
    rw [find?_cells_setCell] at hx
    split at hx
    · rename_i heq
      cases hx
      exact h.registered (heq ▸ hi) hk (hv.symm.trans hy)
    · exact h.registered hi hx hy

/-- A call fills its empty cell. All others on that cell have its key. -/
theorem Vouched.fill (h : Vouched P c) (hcoherent : Coherent c) (hc : c.calls.find? id = some call)
    (hs : call.stage.cell? = some cell) (hk : c.cells.find? cell = some k) (he : k.value = none)
    (hP : P call.key signed) : Vouched P (c.setCell cell ⟨some signed, none, []⟩) where
  stored := h.stored
  held := by
    intro id' call' x y signed' hc' hs' hx hy
    rw [find?_cells_setCell] at hx
    split at hx
    · rename_i heq
      cases hx
      cases hy
      have hkey := hcoherent.own hc' (heq ▸ hs') (hcoherent.joined hc hs hk he)
      exact hkey ▸ hP
    · exact h.held hc' hs' hx hy
  registered := by
    intro key x y signed' hi hx hy
    rw [find?_cells_setCell] at hx
    split at hx
    · rename_i heq
      cases hx
      cases hy
      have hkey := hcoherent.separate (heq ▸ hi) (hcoherent.joined hc hs hk he)
      exact hkey ▸ hP
    · exact h.registered hi hx hy

theorem Vouched.store (h : Vouched P c) (hP : P key signed) : Vouched P (c.store key signed) := by
  unfold SignatureCache.store
  split
  · refine ⟨?_, h.held, h.registered⟩
    intro key' signed' he
    dsimp only at he
    rw [Table.find?_insert] at he
    split at he
    · rename_i heq
      cases he
      exact heq ▸ hP
    · exact h.stored he
  · exact h

theorem Vouched.cellFor (h : Vouched P c) (key : SignatureKey) : Vouched P (c.cellFor key).1 := by
  unfold SignatureCache.cellFor
  cases hi : c.inflight.find? key with
  | some cell => exact h
  | none =>
    refine ⟨h.stored, ?_, ?_⟩
    · intro id call x y signed hc hs hx hy
      dsimp only at hx
      rw [Table.find?_insert] at hx
      split at hx
      · cases hx
        cases hy
      · exact h.held hc hs hx hy
    · intro key' x y signed hx' hx hy
      dsimp only at hx' hx
      rw [Table.find?_insert] at hx' hx
      split at hx
      · cases hx
        cases hy
      · split at hx'
        · cases hx'
          exact absurd rfl ‹_›
        · exact h.registered hx' hx hy

theorem Vouched.addCall (h : Vouched P c) (hi : c.inflight.find? call.key = some cell)
    (hs : call.stage.cell? = some cell) : Vouched P { c with calls := c.calls.insert id call } where
  stored := h.stored
  held := by
    intro id' call' x y signed hc hs' hx hy
    dsimp only at hc
    rw [Table.find?_insert] at hc
    split at hc
    · cases hc
      cases hs.symm.trans hs'
      exact h.registered hi hx hy
    · exact h.held hc hs' hx hy
  registered := h.registered

theorem Vouched.addDirect (h : Vouched P c) (hs : call.stage.cell? = none) :
    Vouched P { c with calls := c.calls.insert id call } where
  stored := h.stored
  held := by
    intro id' call' x y signed hc hs' hx hy
    dsimp only at hc
    rw [Table.find?_insert] at hc
    split at hc
    · cases hc
      cases hs.symm.trans hs'
    · exact h.held hc hs' hx hy
  registered := h.registered

theorem Vouched.enter (h : Vouched P c) (id : CallId) (request : RelayRequest) (app : Application) :
    Vouched P (c.enter id request app) := by
  unfold SignatureCache.enter
  have hc := h.cellFor (SignatureKey.ofRequest request app)
  have hi := find?_inflight_cellFor c (SignatureKey.ofRequest request app)
  generalize c.cellFor (SignatureKey.ofRequest request app) = joined at hc hi
  obtain ⟨c', cell⟩ := joined
  have hadd : Vouched P { c' with calls := c'.calls.insert id ⟨request, app, .waiting cell⟩ } :=
    hc.addCall hi rfl
  dsimp only at hadd ⊢
  split
  · rename_i queue hk
    exact hadd.setCell hk rfl
  · rename_i turn queue hk
    exact hadd.setCell hk rfl
  · exact hadd

/-! ## Steps of a call -/

/-- A call that begins finds a signature for its data, or joins the cell of its key, past a stored
signature for other data, or goes past the cache. -/
theorem begin_cases (c : SignatureCache) (id : CallId) (request : RelayRequest) (app : Application) :
    (∃ signed, c.entries.find? (SignatureKey.ofRequest request app) = some signed ∧
        c.begin id request app = ⟨c.countHit, .done (.ok signed), []⟩) ∨
      c.begin id request app = (c.evict (SignatureKey.ofRequest request app)).join id request app ∨
      c.begin id request app = c.join id request app ∨
      c.config.enabled = false ∧ c.begin id request app =
        ⟨{ c with calls := c.calls.insert id ⟨request, app, .direct⟩ }, .compute, []⟩ := by
  unfold SignatureCache.begin
  split
  · dsimp only
    cases hf : c.entries.find? (SignatureKey.ofRequest request app) with
    | none => exact .inr (.inr (.inl rfl))
    | some signed =>
      dsimp only
      split
      · exact .inl ⟨signed, rfl, rfl⟩
      · exact .inr (.inl rfl)
  · exact .inr (.inr (.inr ⟨Bool.eq_false_iff.2 ‹_›, rfl⟩))

theorem Orderly.join (h : Orderly c) (id : CallId) (request : RelayRequest) (app : Application) :
    Orderly (c.join id request app).cache := by
  obtain ⟨events, hrun⟩ := resume_run (c.enter id request app) id
  exact hrun.orderly (h.enter id request app)

theorem Orderly.begin (h : Orderly c) (id : CallId) (request : RelayRequest) (app : Application) :
    Orderly (c.begin id request app).cache := by
  rcases begin_cases c id request app with ⟨signed, -, heq⟩ | heq | heq | ⟨disabled, heq⟩ <;> rw [heq]
  · exact h.of_eq rfl rfl rfl rfl rfl
  · exact (h.of_eq rfl rfl rfl rfl rfl : Orderly (c.evict _)).join id request app
  · exact h.join id request app
  · exact h.addDirect disabled rfl

theorem Vouched.resume (h : Vouched P c) (horderly : Orderly c) (id : CallId) :
    Vouched P (c.resume id).cache := by
  have hres := resumed c id
  generalize c.resume id = step at hres ⊢
  cases hres with
  | stays pending => exact h
  | adopts found stage shared filled =>
    have hleft := h.release id
    exact ⟨hleft.stored, hleft.held, hleft.registered⟩
  | @rechecks call cell k found stage shared empty turn =>
    have hcell : call.stage.cell? = some cell := by rw [stage]; rfl
    unfold takeTurn
    cases hf : c.entries.find? call.key with
    | none =>
      have hi := horderly.joined found hcell shared empty
      exact h.addCall (by exact hi) rfl
    | some signed =>
      rw [recheck_some shared]
      have hleft := (h.fill horderly.toCoherent found hcell shared empty (h.stored hf)).release id
      exact ⟨hleft.stored, hleft.held, hleft.registered⟩

theorem Vouched.resume_done (h : Vouched P c) (hdone : (c.resume id).progress = .done result) :
    ∃ call signed, c.calls.find? id = some call ∧ result = .ok signed ∧ P call.key signed := by
  have hres := resumed c id
  generalize c.resume id = step at hres hdone
  cases hres with
  | stays pending => exact absurd hdone (pending result)
  | @adopts call cell k signed found stage shared filled =>
    cases hdone
    have hcell : call.stage.cell? = some cell := by rw [stage]; rfl
    exact ⟨call, signed, found, rfl, h.held found hcell shared filled⟩
  | @rechecks call cell k found stage shared empty turn =>
    unfold takeTurn at hdone
    cases hf : c.entries.find? call.key with
    | none =>
      rw [hf] at hdone
      cases hdone
    | some signed =>
      rw [hf] at hdone
      cases hdone
      exact ⟨call, signed, found, rfl, h.stored hf⟩

theorem Vouched.join (h : Vouched P c) (horderly : Orderly c) (id : CallId) (request : RelayRequest)
    (app : Application) : Vouched P (c.join id request app).cache :=
  (h.enter id request app).resume (horderly.enter id request app) id

theorem Vouched.join_done (h : Vouched P c) (hdone : (c.join id request app).progress = .done result) :
    ∃ signed, result = .ok signed ∧ P (SignatureKey.ofRequest request app) signed := by
  obtain ⟨call, signed, found, rfl, hP⟩ := (h.enter id request app).resume_done hdone
  rw [find?_calls_enter_self] at found
  cases found
  exact ⟨signed, rfl, hP⟩

theorem Vouched.begin (h : Vouched P c) (horderly : Orderly c) (id : CallId) (request : RelayRequest)
    (app : Application) : Vouched P (c.begin id request app).cache := by
  rcases begin_cases c id request app with ⟨signed, -, heq⟩ | heq | heq | ⟨-, heq⟩ <;> rw [heq]
  · exact ⟨h.stored, h.held, h.registered⟩
  · exact (h.evict _).join (horderly.of_eq rfl rfl rfl rfl rfl) id request app
  · exact h.join horderly id request app
  · exact h.addDirect rfl

theorem Vouched.begin_done (h : Vouched P c) (hdone : (c.begin id request app).progress = .done result) :
    ∃ signed, result = .ok signed ∧ P (SignatureKey.ofRequest request app) signed := by
  rcases begin_cases c id request app with ⟨signed, hf, heq⟩ | heq | heq | ⟨-, heq⟩ <;>
    rw [heq] at hdone
  · cases hdone
    exact ⟨signed, rfl, h.stored hf⟩
  · exact (h.evict _).join_done hdone
  · exact h.join_done hdone
  · cases hdone

/-- A computation has ended. What it has come to, if to a signature, is vouched for. -/
theorem Vouched.finish (h : Vouched P c) (horderly : Orderly c)
    (hP : ∀ call signed, c.calls.find? id = some call → result = .ok signed → P call.key signed) :
    Vouched P (c.finish id result).cache := by
  unfold SignatureCache.finish
  cases hc : c.calls.find? id with
  | none => exact h
  | some call =>
    dsimp only
    cases hs : call.stage with
    | waiting cell => exact h
    | direct => exact h.release id
    | computing cell =>
      obtain ⟨k, hk, he, -⟩ := horderly.turns hc hs
      have hcell : call.stage.cell? = some cell := by rw [hs]; rfl
      cases result with
      | error e =>
        dsimp only
        rw [passTurn_of_some hk]
        have hpassed : Vouched P (c.setCell cell { k with turn := k.queue.head?, queue := k.queue.tail }) :=
          h.setCell hk rfl
        exact hpassed.release id
      | ok signed =>
        have hsigned : P call.key signed := hP call signed hc rfl
        have hkept : (c.store call.key signed).calls.find? id = some call := by rw [calls_store, hc]
        have hk' : (c.store call.key signed).cells.find? cell = some k := by
          unfold SignatureCache.store
          split <;> exact hk
        have hcoherent : Coherent (c.store call.key signed) :=
          (Move.keep signed hc hs).orderly horderly |>.toCoherent
        dsimp only
        rw [fill_of_some hk']
        have hleft := ((h.store hsigned).fill hcoherent hkept hcell hk' he hsigned).release id
        exact ⟨hleft.stored, hleft.held, hleft.registered⟩

theorem Vouched.cancel (h : Vouched P c) (horderly : Orderly c) (id : CallId) :
    Vouched P (c.cancel id).1 := by
  cases hc : c.calls.find? id with
  | none => rwa [cancel_of_none hc]
  | some call =>
    cases hs : call.stage.cell? with
    | none =>
      rw [cancel_of_direct hc hs]
      exact h.release id
    | some cell =>
      obtain ⟨k, hk⟩ := horderly.held hc hs
      have hset : ∀ turn queue, Vouched P (c.setCell cell ⟨k.value, turn, queue⟩) :=
        fun turn queue => h.setCell hk rfl
      by_cases ht : k.turn = some id
      · rw [cancel_of_turn hc hs hk ht]
        exact (hset _ _).release id
      · rw [cancel_of_cell hc hs hk ht]
        exact (hset _ _).release id

/-! ## What the calls ask for -/

def Asks (c : SignatureCache) (id : CallId) (request : RelayRequest) (app : Application) : Prop :=
  ∃ call, c.calls.find? id = some call ∧ call.request = request ∧ call.app = app

theorem Asks.of_release (h : (c.release id).Asks id' request app) : c.Asks id' request app := by
  obtain ⟨call, found, hcall⟩ := h
  exact ⟨call, (of_find?_calls_release found).2, hcall⟩

theorem Asks.of_resume (h : (c.resume id).cache.Asks id' request app) : c.Asks id' request app := by
  have hres := resumed c id
  generalize c.resume id = step at hres h
  cases hres with
  | stays pending => exact h
  | adopts found stage shared filled => exact of_release h
  | @rechecks call cell k found stage shared empty turn =>
    unfold takeTurn at h
    cases hf : c.entries.find? call.key with
    | some signed =>
      rw [hf, recheck_some shared] at h
      exact of_release (c := c.setCell cell _) h
    | none =>
      rw [hf] at h
      obtain ⟨call', found', hrequest, happ⟩ := h
      unfold recheck at found'
      dsimp only at found'
      rw [Table.find?_insert] at found'
      split at found'
      · rename_i heq
        cases found'
        exact ⟨call, heq ▸ found, hrequest, happ⟩
      · exact ⟨call', found', hrequest, happ⟩

theorem calls_fill : (c.fill cell signed).1.calls = c.calls := by
  unfold fill
  split <;> rfl

theorem calls_passTurn : (c.passTurn cell).1.calls = c.calls := by
  unfold passTurn
  split <;> rfl

theorem Asks.of_eq (h : c'.Asks id request app) (heq : c'.calls = c.calls) : c.Asks id request app := by
  unfold Asks at h
  rwa [heq] at h

theorem Asks.of_finish (h : (c.finish id result).cache.Asks id' request app) :
    c.Asks id' request app := by
  unfold finish at h
  cases hc : c.calls.find? id with
  | none => rwa [hc] at h
  | some call =>
    rw [hc] at h
    dsimp only at h
    cases hs : call.stage with
    | waiting cell => rwa [hs] at h
    | direct =>
      rw [hs] at h
      exact of_release h
    | computing cell =>
      rw [hs] at h
      cases result with
      | ok signed => exact ((of_release h).of_eq calls_fill).of_eq calls_store
      | error e => exact (of_release h).of_eq calls_passTurn

theorem Asks.of_cancel (h : (c.cancel id).1.Asks id' request app) : c.Asks id' request app := by
  unfold cancel at h
  cases hc : c.calls.find? id with
  | none => rwa [hc] at h
  | some call =>
    rw [hc] at h
    dsimp only at h
    cases hs : call.stage.cell? with
    | none =>
      rw [hs] at h
      exact of_release h
    | some cell =>
      rw [hs] at h
      dsimp only at h
      split at h
      · split at h
        · exact (of_release h).of_eq calls_passTurn
        · exact of_release (c := c.setCell cell _) h
      · exact of_release h

variable {request' : RelayRequest} {app' : Application}

/-- A call that joins asks for what it has come with. All others ask as before. -/
theorem Asks.of_join (h : (c.join id request app).cache.Asks id' request' app') :
    id' = id ∧ request' = request ∧ app' = app ∨ id' ≠ id ∧ c.Asks id' request' app' := by
  obtain ⟨call, found, hrequest, happ⟩ := h.of_resume
  rw [find?_calls_enter] at found
  split at found
  · cases found
    exact .inl ⟨‹_›, hrequest.symm, happ.symm⟩
  · exact .inr ⟨‹_›, call, found, hrequest, happ⟩

theorem Asks.cases_begin (h : (c.begin id request app).cache.Asks id' request' app') :
    id' = id ∧ request' = request ∧ app' = app ∨ c.Asks id' request' app' := by
  rcases begin_cases c id request app with ⟨signed, -, heq⟩ | heq | heq | ⟨-, heq⟩ <;> rw [heq] at h
  · exact .inr h
  · exact (of_join (c := c.evict _) h).imp_right And.right
  · exact h.of_join.imp_right And.right
  · obtain ⟨call, found, hrequest, happ⟩ := h
    dsimp only at found
    rw [Table.find?_insert] at found
    split at found
    · cases found
      exact .inl ⟨‹_›, hrequest.symm, happ.symm⟩
    · exact .inr ⟨call, found, hrequest, happ⟩

theorem Asks.of_begin (hne : id' ≠ id) (h : (c.begin id request app).cache.Asks id' request' app') :
    c.Asks id' request' app' :=
  h.cases_begin.resolve_left fun hself => hne hself.1

theorem Asks.of_begin_self (hpending : ∀ result, (c.begin id request app).progress ≠ .done result)
    (h : (c.begin id request app).cache.Asks id request' app') : request' = request ∧ app' = app := by
  rcases begin_cases c id request app with ⟨signed, -, heq⟩ | heq | heq | ⟨-, heq⟩ <;> rw [heq] at h
  · exact absurd (by rw [heq]) (hpending (.ok signed))
  · exact (of_join (c := c.evict _) h).resolve_right (fun hother => hother.1 rfl) |>.2
  · exact h.of_join.resolve_right (fun hother => hother.1 rfl) |>.2
  · obtain ⟨call, found, rfl, rfl⟩ := h
    dsimp only at found
    rw [Table.find?_insert_self] at found
    cases found
    exact ⟨rfl, rfl⟩

end RelayGateway.SignatureCache
