import RelayGateway.Proofs.Signing.History
import RelayGateway.Proofs.Signing.Vouched

/-! # Every answer is the one signature for its data

A signature reaches a caller from the store, from the cell it waits on, or from its own computation.
Whatever the cells hold is in the store under the key of those who can take it, and whatever is in the
store has been computed for that key. No computation for a key begins once the store has an entry for
it, so there is no second one.
-/
namespace RelayGateway.SignatureCache
variable {c c' : SignatureCache} {id : CallId} {call : SignatureCall} {cell : CellId} {k k' : Cell}
variable {key : SignatureKey} {signed : SignedRelay} {request : RelayRequest} {app : Application}
variable {actions : List Action} {a : Action} {computed : List SignedRelay}
variable {entries : Table SignatureKey SignedRelay}

/-! ## The cells hold what is stored -/

structure Shelved (c : SignatureCache) : Prop where
  /-- What a call can take from its cell is stored under its key. -/
  held : ∀ {id call cell k signed}, c.calls.find? id = some call → call.stage.cell? = some cell →
    c.cells.find? cell = some k → k.value = some signed → c.entries.find? call.key = some signed
  /-- What a newcomer would find in the cell of its key is stored under that key. -/
  registered : ∀ {key cell k signed}, c.inflight.find? key = some cell →
    c.cells.find? cell = some k → k.value = some signed → c.entries.find? key = some signed

/-- What the cells hold is then vouched for by what is stored. -/
theorem Shelved.vouched (h : Shelved c) :
    Vouched (fun key signed => c.entries.find? key = some signed) c where
  stored he := he
  held := h.held
  registered := h.registered

theorem Shelved.of_vouched (h : Vouched (fun key signed => entries.find? key = some signed) c)
    (hentries : c.entries = entries) : Shelved c where
  held hc hs hk hv := hentries ▸ h.held hc hs hk hv
  registered hi hk hv := hentries ▸ h.registered hi hk hv

theorem Shelved.release (h : Shelved c) (id : CallId) : Shelved (c.release id) :=
  .of_vouched (h.vouched.release id) entries_release

theorem Shelved.sweep (h : Shelved c) : Shelved c.sweep := .of_vouched h.vouched.sweep rfl

/-- A cell may change as long as its value does not. -/
theorem Shelved.setCell (h : Shelved c) (hk : c.cells.find? cell = some k) (hv : k'.value = k.value) :
    Shelved (c.setCell cell k') :=
  .of_vouched (h.vouched.setCell hk hv) rfl

/-- A call fills its cell with what is stored under its key. All others on that cell have the key. -/
theorem Shelved.fill (h : Shelved c) (hcoherent : Coherent c) (hc : c.calls.find? id = some call)
    (hs : call.stage.cell? = some cell) (hk : c.cells.find? cell = some k) (he : k.value = none)
    (hstored : c.entries.find? call.key = some signed) :
    Shelved (c.setCell cell ⟨some signed, none, []⟩) :=
  .of_vouched (h.vouched.fill hcoherent hc hs hk he hstored) rfl

/-- A signature is stored where there has been none. -/
theorem Shelved.store (h : Shelved c) (signed : SignedRelay) (hnone : c.entries.find? key = none) :
    Shelved { c with entries := c.entries.insert key signed } := by
  have hkept : ∀ {key' signed'}, c.entries.find? key' = some signed' →
      (c.entries.insert key signed).find? key' = some signed' := by
    intro key' signed' hstored
    rw [Table.find?_insert_of_ne, hstored]
    rintro rfl
    cases hnone.symm.trans hstored
  have hvouched := h.vouched.mono hkept
  exact ⟨hvouched.held, hvouched.registered⟩

theorem Shelved.addCall (h : Shelved c) (hi : c.inflight.find? call.key = some cell)
    (hs : call.stage.cell? = some cell) : Shelved { c with calls := c.calls.insert id call } :=
  .of_vouched (h.vouched.addCall hi hs) rfl

theorem Shelved.enter (h : Shelved c) (id : CallId) (request : RelayRequest) (app : Application) :
    Shelved (c.enter id request app) :=
  .of_vouched (h.vouched.enter id request app) entries_enter

/-! ## The store holds what has been computed -/

structure Kept (computed : List SignedRelay) (entries : Table SignatureKey SignedRelay) : Prop where
  /-- Stored signatures have been computed, for the data of their key. -/
  stored : ∀ {key signed}, entries.find? key = some signed →
    signed ∈ computed ∧ signed.request.data.key = key
  /-- Signatures that have been computed are stored. -/
  kept : ∀ {signed}, signed ∈ computed → entries.find? signed.request.data.key = some signed
  once : (computed.map fun signed => signed.request.data).Nodup

theorem kept_nil : Kept [] ∅ where
  stored h := nomatch h
  kept h := nomatch h
  once := List.nodup_nil

/-- The first signature for a key is stored. -/
theorem Kept.store (h : Kept computed entries)
    (hnone : entries.find? signed.request.data.key = none) :
    Kept (computed ++ [signed]) (entries.insert signed.request.data.key signed) where
  stored := by
    intro key signed' hf
    rw [Table.find?_insert] at hf
    split at hf
    · rename_i heq
      cases hf
      exact ⟨List.mem_append_right _ List.mem_cons_self, heq.symm⟩
    · obtain ⟨hm, hkey⟩ := h.stored hf
      exact ⟨List.mem_append_left _ hm, hkey⟩
  kept := by
    intro signed' hm
    rcases List.mem_append.1 hm with hm | hm
    · have hold := h.kept hm
      rw [Table.find?_insert_of_ne, hold]
      intro heq
      rw [heq, hnone] at hold
      cases hold
    · obtain rfl := List.mem_singleton.1 hm
      exact Table.find?_insert_self ..
  once := by
    rw [List.map_append, List.map_singleton, List.nodup_append]
    refine ⟨h.once, by simp, ?_⟩
    intro d hd d' hd' heq
    obtain ⟨signed', hm, rfl⟩ := List.mem_map.1 hd
    have hold := h.kept hm
    rw [heq, List.mem_singleton.1 hd', hnone] at hold
    cases hold

/-! ## The invariant -/

structure Honest (actions : List Action) (c : SignatureCache) : Prop where
  orderly : Orderly c
  shelved : Shelved c
  kept : Kept (successes actions) c.entries
  /-- Nobody computes what is stored. -/
  vacant : ∀ {id call cell}, c.calls.find? id = some call → call.stage = .computing cell →
    c.entries.find? call.key = none
  /-- Whoever is there has begun. -/
  begun : ∀ {id call}, c.calls.find? id = some call → .begin id call.request call.app ∈ actions
  /-- The header of a request names the application that it is signed for. -/
  own : ∀ {id request app}, .begin id request app ∈ actions →
    request.header.appAddress = app.address
  requested : ∀ {signed}, signed ∈ successes actions → signed.request.data ∈ asked actions

theorem honest_new (config : SignatureCacheConfig) : Honest [] (new config) where
  orderly := orderly_new config
  shelved := ⟨fun h => (nomatch h), fun h => (nomatch h)⟩
  kept := kept_nil
  vacant h := nomatch h
  begun h := nomatch h
  own h := nomatch h
  requested h := nomatch h

theorem mem_asked {id : CallId} (h : .begin id request app ∈ actions) : request.data ∈ asked actions :=
  List.mem_filterMap.2 ⟨_, h, rfl⟩

theorem Honest.key_eq (h : Honest actions c) (hc : c.calls.find? id = some call) :
    call.key = call.request.data.key :=
  SignatureKey.ofRequest_eq (h.own (h.begun hc))

/-- An action that completes no computation has only to be noted. -/
theorem Honest.append (h : Honest actions c) (hsuccess : a.success? = none)
    (hown : ∀ id request app, a = .begin id request app → request.header.appAddress = app.address) :
    Honest (actions ++ [a]) c where
  orderly := h.orderly
  shelved := h.shelved
  kept := by
    have heq : successes (actions ++ [a]) = successes actions := by
      simp [successes, hsuccess]
    rw [heq]
    exact h.kept
  vacant := h.vacant
  begun hc := List.mem_append_left _ (h.begun hc)
  own := by
    intro id request app hm
    rcases List.mem_append.1 hm with hm | hm
    · exact h.own hm
    · exact hown _ _ _ (List.mem_singleton.1 hm).symm
  requested := by
    intro signed hm
    simp only [successes, asked, List.filterMap_append, List.mem_append] at hm ⊢
    rcases hm with hm | hm
    · exact .inl (h.requested hm)
    · simp [hsuccess] at hm

theorem Honest.note (h : Honest actions c) (hdata : a.data? = none) (hsuccess : a.success? = none) :
    Honest (actions ++ [a]) c := by
  refine h.append hsuccess ?_
  intro id request app heq
  rw [heq] at hdata
  cases hdata

theorem Honest.of_eq (h : Honest actions c) (horderly : Orderly c') (hshelved : Shelved c')
    (hentries : c'.entries = c.entries)
    (hcalls : ∀ {id call}, c'.calls.find? id = some call → c.calls.find? id = some call) :
    Honest actions c' where
  orderly := horderly
  shelved := hshelved
  kept := hentries ▸ h.kept
  vacant hc hs := hentries ▸ h.vacant (hcalls hc) hs
  begun hc := h.begun (hcalls hc)
  own := h.own
  requested := h.requested

theorem Honest.release (h : Honest actions c) (id : CallId) : Honest actions (c.release id) :=
  h.of_eq (h.orderly.release id) (h.shelved.release id) entries_release fun hc =>
    (of_find?_calls_release hc).2

theorem Honest.cancel (h : Honest actions c) (id : CallId) : Honest actions (c.cancel id).1 := by
  cases hc : c.calls.find? id with
  | none => rwa [cancel_of_none hc]
  | some call =>
    cases hs : call.stage.cell? with
    | none =>
      rw [cancel_of_direct hc hs]
      exact h.release id
    | some cell =>
      obtain ⟨k, hk⟩ := h.orderly.held hc hs
      have horderly := h.orderly.cancel id
      have hcalls : ∀ {k' id' call'}, ((c.setCell cell k').release id).calls.find? id' = some call' →
          c.calls.find? id' = some call' := fun hc' => (of_find?_calls_release hc').2
      by_cases ht : k.turn = some id
      · rw [cancel_of_turn hc hs hk ht] at horderly ⊢
        refine h.of_eq horderly ((h.shelved.setCell hk ?_).release id) entries_release hcalls
        rfl
      · rw [cancel_of_cell hc hs hk ht] at horderly ⊢
        refine h.of_eq horderly ((h.shelved.setCell hk ?_).release id) entries_release hcalls
        rfl

/-- The call whose turn it is finds its signature in the store. -/
theorem Honest.recheck_some (h : Honest actions c) (hc : c.calls.find? id = some call)
    (hs : call.stage = .waiting cell) (hk : c.cells.find? cell = some k) (he : k.value = none)
    (ht : k.turn = some id) (hstored : c.entries.find? call.key = some signed) :
    Honest actions (c.recheck id call cell (some signed)).cache := by
  have horderly := h.orderly.recheck (some signed) hc hs hk he ht
  have hcell : call.stage.cell? = some cell := by rw [hs]; rfl
  have hshelved := h.shelved.fill h.orderly.toCoherent hc hcell hk he hstored
  rw [SignatureCache.recheck_some hk] at horderly ⊢
  exact h.of_eq horderly ⟨(hshelved.release id).held, (hshelved.release id).registered⟩
    entries_release fun hc' => (of_find?_calls_release hc').2

/-- The call whose turn it is finds nothing in the store and starts to compute. -/
theorem Honest.recheck_none (h : Honest actions c) (hc : c.calls.find? id = some call)
    (hs : call.stage = .waiting cell) (hk : c.cells.find? cell = some k) (he : k.value = none)
    (ht : k.turn = some id) (hnone : c.entries.find? call.key = none) :
    Honest actions (c.recheck id call cell none).cache where
  orderly := h.orderly.recheck none hc hs hk he ht
  shelved := by
    have hreg := h.orderly.joined hc (by rw [hs]; rfl) hk he
    exact h.shelved.addCall hreg rfl
  kept := h.kept
  vacant := by
    intro id' call' x hc' hs'
    unfold recheck at hc'
    dsimp only at hc'
    rw [Table.find?_insert] at hc'
    split at hc'
    · cases hc'
      exact hnone
    · exact h.vacant hc' hs'
  begun := by
    intro id' call' hc'
    unfold recheck at hc'
    dsimp only at hc'
    rw [Table.find?_insert] at hc'
    split at hc'
    · rename_i heq
      cases hc'
      have hbegun := h.begun hc
      rw [← heq] at hbegun
      exact hbegun
    · exact h.begun hc'
  own := h.own
  requested := h.requested

theorem Honest.resume (h : Honest actions c) (id : CallId) : Honest actions (c.resume id).cache := by
  have hres := resumed c id
  generalize c.resume id = step at hres ⊢
  cases hres with
  | stays pending => exact h
  | adopts found stage shared filled =>
    exact (h.release id).of_eq ((h.orderly.release id).of_eq rfl rfl rfl rfl rfl)
      ⟨(h.shelved.release id).held, (h.shelved.release id).registered⟩ rfl fun hc => hc
  | @rechecks call cell k found stage shared empty turn =>
    unfold takeTurn
    cases hf : c.entries.find? call.key with
    | some signed => exact h.recheck_some found stage shared empty turn hf
    | none => exact h.recheck_none found stage shared empty turn hf

/-- What a call is given when it is resumed has been computed for its key. -/
theorem Honest.resume_done (h : Honest actions c) {result : Except SignerError SignedRelay}
    (hdone : (c.resume id).progress = .done result) :
    ∃ call signed, c.calls.find? id = some call ∧ result = .ok signed ∧
      signed ∈ successes actions ∧ signed.request.data.key = call.key := by
  have hres := resumed c id
  generalize c.resume id = step at hres hdone
  cases hres with
  | stays pending => exact absurd hdone (pending result)
  | @adopts call cell k signed found stage shared filled =>
    cases hdone
    have hcell : call.stage.cell? = some cell := by rw [stage]; rfl
    exact ⟨call, signed, found, rfl, h.kept.stored (h.shelved.held found hcell shared filled)⟩
  | @rechecks call cell k found stage shared empty turn =>
    unfold takeTurn at hdone
    cases hf : c.entries.find? call.key with
    | some signed =>
      rw [hf] at hdone
      cases hdone
      exact ⟨call, signed, found, rfl, h.kept.stored hf⟩
    | none =>
      rw [hf] at hdone
      cases hdone

/-- A stored signature for the key of a request is for the data of the request. -/
theorem Honest.data_eq (h : Honest actions c) (hfree : RelayData.CollisionFree (asked actions))
    (hsized : ∀ d ∈ asked actions, d.Sized) (hm : signed ∈ successes actions)
    (hasked : request.data ∈ asked actions) (hkey : signed.request.data.key = request.data.key) :
    signed.request.data = request.data :=
  hfree.eq_of_key hsized (h.requested hm) hasked hkey

/-- A call joins the cell of its key. -/
theorem Honest.enter (h : Honest actions c) (hm : .begin id request app ∈ actions) :
    Honest actions (c.enter id request app) where
  orderly := h.orderly.enter id request app
  shelved := h.shelved.enter id request app
  kept := by
    rw [entries_enter]
    exact h.kept
  vacant := by
    intro id' call' x hc hs
    rw [find?_calls_enter] at hc
    rw [entries_enter]
    split at hc
    · cases hc
      cases hs
    · exact h.vacant hc hs
  begun := by
    intro id' call' hc
    rw [find?_calls_enter] at hc
    split at hc
    · rename_i heq
      cases hc
      rw [heq]
      exact hm
    · exact h.begun hc
  own := h.own
  requested := h.requested

/-- A call that begins is answered with the signature for its data, or joins the cell of its key. -/
theorem Honest.begin_eq (h : Honest actions c) (henabled : c.config.enabled = true)
    (hfree : RelayData.CollisionFree (asked actions)) (hsized : ∀ d ∈ asked actions, d.Sized)
    (hm : .begin id request app ∈ actions) :
    (∃ signed, signed ∈ successes actions ∧ signed.request.data = request.data ∧
      c.begin id request app = ⟨c.countHit, .done (.ok signed), []⟩) ∨
    c.begin id request app = (c.enter id request app).resume id := by
  have hown := h.own hm
  have hkey : SignatureKey.ofRequest request app = request.data.key := SignatureKey.ofRequest_eq hown
  unfold SignatureCache.begin
  rw [if_pos henabled]
  dsimp only
  cases hf : c.entries.find? (SignatureKey.ofRequest request app) with
  | none => exact .inr rfl
  | some signed =>
    obtain ⟨hsuccess, hsigned⟩ := h.kept.stored hf
    have hdata := h.data_eq hfree hsized hsuccess (mem_asked hm) (hsigned.trans hkey)
    have hmeant : signed.isFor request.header.sessionId request.supplier app.address = true := by
      obtain ⟨hsession, hsupplier, happ, -⟩ := RelayData.mk.inj hdata
      simp [SignedRelay.isFor, hsession, hsupplier, happ, hown]
    refine .inl ⟨signed, hsuccess, hdata, ?_⟩
    dsimp only
    rw [if_pos hmeant]

theorem Honest.begin (h : Honest actions c) (henabled : c.config.enabled = true)
    (hfree : RelayData.CollisionFree (asked actions)) (hsized : ∀ d ∈ asked actions, d.Sized)
    (hm : .begin id request app ∈ actions) : Honest actions (c.begin id request app).cache := by
  rcases h.begin_eq henabled hfree hsized hm with ⟨signed, -, -, heq⟩ | heq
  · rw [heq]
    exact h.of_eq (h.orderly.of_eq rfl rfl rfl rfl rfl) ⟨h.shelved.held, h.shelved.registered⟩ rfl
      fun hc => hc
  · rw [heq]
    exact (h.enter hm).resume id

theorem Honest.begin_done (h : Honest actions c) (henabled : c.config.enabled = true)
    (hfree : RelayData.CollisionFree (asked actions)) (hsized : ∀ d ∈ asked actions, d.Sized)
    (hm : .begin id request app ∈ actions) {result : Except SignerError SignedRelay}
    (hdone : (c.begin id request app).progress = .done result) :
    ∃ signed, result = .ok signed ∧ signed ∈ successes actions ∧
      signed.request.data = request.data := by
  rcases h.begin_eq henabled hfree hsized hm with ⟨signed, hsuccess, hdata, heq⟩ | heq
  · rw [heq] at hdone
    cases hdone
    exact ⟨signed, rfl, hsuccess, hdata⟩
  · rw [heq] at hdone
    obtain ⟨call, signed, hc, hresult, hsuccess, hkey⟩ := (h.enter hm).resume_done hdone
    rw [find?_calls_enter_self] at hc
    cases hc
    refine ⟨signed, hresult, hsuccess, h.data_eq hfree hsized hsuccess (mem_asked hm) ?_⟩
    exact hkey.trans (SignatureKey.ofRequest_eq (h.own hm))

/-- A computation that has succeeded is the first for its key. -/
theorem Honest.finish_ok (h : Honest actions c) (henabled : c.config.enabled = true)
    (hretains : c.config.retains = true) (hc : c.calls.find? id = some call)
    (hs : call.stage = .computing cell) (hsame : signed.request = call.request) :
    Honest (actions ++ [.finish id (.ok signed)]) (c.finish id (.ok signed)).cache := by
  obtain ⟨k, hk, he, -⟩ := h.orderly.turns hc hs
  obtain ⟨events, hrun⟩ := finish_run c id (.ok signed)
  have horderly := hrun.orderly h.orderly
  have hnone := h.vacant hc hs
  have hcell : call.stage.cell? = some cell := by rw [hs]; rfl
  have hcomputing : isComputing call = true := isComputing_of_stage hs
  have hkey : call.key = signed.request.data.key := by rw [h.key_eq hc, hsame]
  have hstored := h.shelved.store signed hnone
  have hcoherent : Coherent { c with entries := c.entries.insert call.key signed } :=
    h.orderly.toCoherent.of_eq rfl rfl rfl rfl
  have hfilled := hstored.fill hcoherent hc hcell hk he (Table.find?_insert_self ..)
  rw [finish_of_ok hretains hc hs hk] at horderly ⊢
  have hcalls : ∀ {id' call'}, (SignatureCache.release (setCell { c with
      entries := c.entries.insert call.key signed } cell ⟨some signed, none, []⟩) id).calls.find? id' =
        some call' → id' ≠ id ∧ c.calls.find? id' = some call' := of_find?_calls_release
  refine ⟨horderly, ⟨(hfilled.release id).held, (hfilled.release id).registered⟩, ?_, ?_, ?_, ?_, ?_⟩
  · have heq : successes (actions ++ [.finish id (.ok signed)]) = successes actions ++ [signed] := by
      simp [successes, Action.success?]
    have hkept : Kept (successes actions ++ [signed]) (c.entries.insert call.key signed) := by
      rw [hkey] at hnone ⊢
      exact h.kept.store hnone
    rw [heq]
    dsimp only [countMiss]
    rwa [entries_release]
  · intro id' call' x hc' hs'
    obtain ⟨hn, hc'⟩ := hcalls hc'
    have hvacant := h.vacant hc' hs'
    have hcomputing' : isComputing call' = true := isComputing_of_stage hs'
    dsimp only [countMiss]
    rw [entries_release]
    dsimp only [setCell]
    rw [Table.find?_insert_of_ne, hvacant]
    intro heq
    exact hn (h.orderly.eq_of_computing henabled hc' hcomputing' hc hcomputing heq)
  · intro id' call' hc'
    exact List.mem_append_left _ (h.begun (hcalls hc').2)
  · intro id' request app hm
    rcases List.mem_append.1 hm with hm | hm
    · exact h.own hm
    · cases List.mem_singleton.1 hm
  · intro signed' hm
    simp only [successes, asked, List.filterMap_append, List.mem_append] at hm ⊢
    rcases hm with hm | hm
    · exact .inl (h.requested hm)
    · obtain rfl : signed' = signed := by simpa [Action.success?] using hm
      rw [hsame]
      exact .inl (mem_asked (h.begun hc))

theorem Honest.finish_error (h : Honest actions c) {e : SignerError}
    (hc : c.calls.find? id = some call) (hs : call.stage = .computing cell) :
    Honest actions (c.finish id (.error e)).cache := by
  obtain ⟨k, hk, -, ht⟩ := h.orderly.turns hc hs
  rw [finish_of_error hc hs hk]
  refine h.of_eq (h.orderly.setCell_release hk ht fun he => he)
    ((h.shelved.setCell hk ?_).release id) entries_release fun hc' => (of_find?_calls_release hc').2
  rfl

/-! ## Histories -/

variable {config : SignatureCacheConfig} {h : Log} {progress : Progress}

theorem actions_snoc : Log.actions (h ++ [(a, progress)]) = h.actions ++ [a] := by
  simp [Log.actions]

theorem asked_subset : asked actions ⊆ asked (actions ++ [a]) := by
  intro d hd
  simp only [asked, List.filterMap_append, List.mem_append]
  exact .inl hd

theorem successes_subset : successes actions ⊆ successes (actions ++ [a]) := by
  intro signed hm
  simp only [successes, List.filterMap_append, List.mem_append]
  exact .inl hm

theorem Allowed.new (allowed : Allowed actions c (.begin id request app)) (h : Honest actions c) :
    c.calls.find? id = none := by
  cases allowed with
  | begin new own =>
    cases hc : c.calls.find? id with
    | none => rfl
    | some call => exact absurd (h.begun hc) (new _ _)

theorem Allowed.config_eq (allowed : Allowed actions c a) (h : Honest actions c) :
    (c.act a).cache.config = c.config := by
  cases a with
  | begin id request app =>
    obtain ⟨events, hrun⟩ := begin_run (allowed.new h) request app
    exact hrun.config
  | resume id =>
    obtain ⟨events, hrun⟩ := resume_run c id
    exact hrun.config
  | finish id result =>
    obtain ⟨events, hrun⟩ := finish_run c id result
    exact hrun.config
  | cancel id => exact config_cancel
  | sweep => rfl

theorem Honest.step (h : Honest actions c) (henabled : c.config.enabled = true)
    (hretains : c.config.retains = true) (allowed : Allowed actions c a)
    (hfree : RelayData.CollisionFree (asked (actions ++ [a])))
    (hsized : ∀ d ∈ asked (actions ++ [a]), d.Sized) : Honest (actions ++ [a]) (c.act a).cache := by
  cases allowed with
  | @begin id request app new own =>
    have h' : Honest (actions ++ [.begin id request app]) c := h.append rfl fun _ _ _ heq => by
      cases heq
      exact own
    exact h'.begin henabled hfree hsized (List.mem_append_right _ List.mem_cons_self)
  | resume id => exact (h.note rfl rfl).resume id
  | @finish id call result found computing same =>
    obtain ⟨cell, hs⟩ := h.orderly.stage_of_computing henabled found computing
    cases result with
    | ok signed => exact h.finish_ok henabled hretains found hs (same signed rfl)
    | error e => exact (h.note rfl rfl).finish_error found hs
  | cancel id => exact (h.note rfl rfl).cancel id
  | sweep =>
    refine (h.note rfl rfl).of_eq ?_ h.shelved.sweep rfl fun hc => hc
    exact Move.sweep.orderly h.orderly

/-- What a step may answer: a signature computed for the data of its call, or the error of a
computation of its own. -/
def Answers (actions : List Action) (a : Action) : Except SignerError SignedRelay → Prop
  | .ok signed => signed ∈ successes actions ∧ ∃ id request app, a.call? = some id ∧
      .begin id request app ∈ actions ∧ signed.request.data = request.data
  | .error e => ∃ id, a = .finish id (.error e)

theorem Answers.append {result : Except SignerError SignedRelay} (h : Answers actions a result)
    (a' : Action) : Answers (actions ++ [a']) a result := by
  cases result with
  | error e => exact h
  | ok signed =>
    obtain ⟨hm, id, request, app, hcall, hbegin, hdata⟩ := h
    exact ⟨successes_subset hm, id, request, app, hcall, List.mem_append_left _ hbegin, hdata⟩

theorem Honest.answers (h : Honest actions c) (henabled : c.config.enabled = true)
    (allowed : Allowed actions c a)
    (hfree : RelayData.CollisionFree (asked (actions ++ [a])))
    (hsized : ∀ d ∈ asked (actions ++ [a]), d.Sized) {result : Except SignerError SignedRelay}
    (hdone : (c.act a).progress = .done result) : Answers (actions ++ [a]) a result := by
  cases allowed with
  | @begin id request app new own =>
    have h' : Honest (actions ++ [.begin id request app]) c := h.append rfl fun _ _ _ heq => by
      cases heq
      exact own
    have hm : .begin id request app ∈ actions ++ [.begin id request app] :=
      List.mem_append_right _ List.mem_cons_self
    obtain ⟨signed, rfl, hsuccess, hdata⟩ := h'.begin_done henabled hfree hsized hm hdone
    exact ⟨hsuccess, id, request, app, rfl, hm, hdata⟩
  | resume id =>
    have h' : Honest (actions ++ [.resume id]) c := h.note rfl rfl
    obtain ⟨call, signed, hc, rfl, hsuccess, hkey⟩ := h'.resume_done hdone
    have hbegun := h'.begun hc
    have hdata := h'.data_eq hfree hsized hsuccess (mem_asked hbegun) (hkey.trans (h'.key_eq hc))
    exact ⟨hsuccess, id, call.request, call.app, rfl, hbegun, hdata⟩
  | @finish id call result found computing same =>
    cases (finish_done found computing result).symm.trans hdone
    cases result with
    | error e => exact ⟨id, rfl⟩
    | ok signed =>
      refine ⟨List.mem_filterMap.2 ⟨_, List.mem_append_right _ List.mem_cons_self, rfl⟩, id,
        call.request, call.app, rfl, List.mem_append_left _ (h.begun found), ?_⟩
      rw [same signed rfl]
  | cancel id => cases hdone
  | sweep => cases hdone

theorem History.honest (history : History config h c) (henabled : config.enabled = true)
    (hretains : config.retains = true) (hfree : RelayData.CollisionFree (asked h.actions))
    (hsized : ∀ d ∈ asked h.actions, d.Sized) : Honest h.actions c ∧ c.config = config := by
  induction history with
  | start => exact ⟨honest_new config, rfl⟩
  | @step h c a history allowed ih =>
    rw [actions_snoc] at hfree hsized ⊢
    obtain ⟨honest, hconfig⟩ := ih (hfree.subset asked_subset) fun d hd => hsized d (asked_subset hd)
    rw [← hconfig] at henabled hretains
    exact ⟨honest.step henabled hretains allowed hfree hsized,
      (allowed.config_eq honest).trans hconfig⟩

theorem History.answers (history : History config h c) (henabled : config.enabled = true)
    (hretains : config.retains = true) (hfree : RelayData.CollisionFree (asked h.actions))
    (hsized : ∀ d ∈ asked h.actions, d.Sized) {result : Except SignerError SignedRelay}
    (hm : (a, .done result) ∈ h) : Answers h.actions a result := by
  induction history with
  | start => cases hm
  | @step h c a' history allowed ih =>
    rw [actions_snoc] at hfree hsized ⊢
    have hfree' := hfree.subset asked_subset
    have hsized' : ∀ d ∈ asked h.actions, d.Sized := fun d hd => hsized d (asked_subset hd)
    rcases List.mem_append.1 hm with hm | hm
    · exact (ih hfree' hsized' hm).append a'
    · obtain ⟨honest, hconfig⟩ := history.honest henabled hretains hfree' hsized'
      rw [← hconfig] at henabled
      obtain ⟨rfl, hdone⟩ := Prod.mk.inj (List.mem_singleton.1 hm)
      exact honest.answers henabled allowed hfree hsized hdone.symm

/-- However the calls interleave, at most one computation for given data succeeds; whoever is answered
with a signature is answered with the one of that computation, for the data it has asked for; and
whoever is answered with an error has got it from a computation of its own. -/
theorem History.reuse (history : History config h c) (henabled : config.enabled = true)
    (hretains : config.retains = true) (hfree : RelayData.CollisionFree (asked h.actions))
    (hsized : ∀ d ∈ asked h.actions, d.Sized) :
    ((successes h.actions).map fun signed => signed.request.data).Nodup ∧
    (∀ a signed, (a, .done (.ok signed)) ∈ h → signed ∈ successes h.actions ∧
      ∃ id request app, a.call? = some id ∧ .begin id request app ∈ h.actions ∧
        signed.request.data = request.data) ∧
    (∀ a e, (a, .done (.error e)) ∈ h → ∃ id, a = .finish id (.error e)) ∧
    ∀ key signed, c.entries.find? key = some signed → signed ∈ successes h.actions := by
  obtain ⟨honest, -⟩ := history.honest henabled hretains hfree hsized
  refine ⟨honest.kept.once, ?_, ?_, ?_⟩
  · intro a signed hm
    exact history.answers henabled hretains hfree hsized hm
  · intro a e hm
    exact history.answers henabled hretains hfree hsized hm
  · intro key signed hf
    exact (honest.kept.stored hf).1

/-- A call that waits for another is given what the other has computed. -/
theorem reuse_waiting_call :
    let signed : SignedRelay := ⟨default, [7]⟩
    ∃ h c, History default h c ∧ RelayData.CollisionFree (asked h.actions) ∧
      (∀ d ∈ asked h.actions, d.Sized) ∧ (.resume 1, .done (.ok signed)) ∈ h ∧
      (successes h.actions).length = 1 ∧ signed ∈ successes h.actions := by
  intro signed
  let first := (new default).act (.begin 0 default default)
  let second := first.cache.act (.begin 1 default default)
  let third := second.cache.act (.finish 0 (.ok signed))
  let fourth := third.cache.act (.resume 1)
  have hi : first.cache.inflight.find? (SignatureKey.ofRequest default default) = some 0 :=
    Table.find?_insert_self ..
  have hsecond : second = ⟨{ first.cache with
      cells := first.cache.cells.insert 0 ⟨none, some 0, [1]⟩
      calls := first.cache.calls.insert 1 ⟨default, default, .waiting 0⟩ }, .wait, []⟩ := by
    simp only [second, act, SignatureCache.begin, join, SignatureCache.enter,
      SignatureCache.cellFor, hi]
    rfl
  have hthird : third.progress = .done (.ok signed) := by
    simp only [third, hsecond]
    rfl
  have hfourth : fourth.progress = .done (.ok signed) := by
    simp only [fourth, third, hsecond]
    rfl
  have hfound : second.cache.calls.find? 0 = some ⟨default, default, .computing 0⟩ := by
    rw [hsecond]
    rfl
  have h₁ : History default [(.begin 0 default default, .compute)] first.cache := by
    refine .step .start (.begin ?_ rfl)
    intro request app hm
    cases hm
  have h₂ : History default [(.begin 0 default default, .compute),
      (.begin 1 default default, second.progress)] second.cache := by
    refine .step h₁ (.begin ?_ rfl)
    intro request app hm
    cases List.mem_singleton.1 hm
  have h₃ : History default [(.begin 0 default default, .compute),
      (.begin 1 default default, second.progress), (.finish 0 (.ok signed), third.progress)]
      third.cache := by
    refine .step h₂ (.finish hfound rfl ?_)
    intro signed' heq
    cases heq
    rfl
  have h₄ : History default [(.begin 0 default default, .compute),
      (.begin 1 default default, second.progress), (.finish 0 (.ok signed), third.progress),
      (.resume 1, fourth.progress)] fourth.cache := .step h₃ (.resume 1)
  rw [hfourth] at h₄
  obtain ⟨h, hlog⟩ : ∃ h : Log, h = [(.begin 0 default default, .compute),
      (.begin 1 default default, second.progress), (.finish 0 (.ok signed), third.progress),
      (.resume 1, .done (.ok signed))] := ⟨_, rfl⟩
  rw [← hlog] at h₄
  have hasked : ∀ d ∈ asked h.actions, d = (default : RelayRequest).data := by
    intro d hd
    rw [hlog] at hd
    simpa [asked, Log.actions, Action.data?] using hd
  have hfree : RelayData.CollisionFree (asked h.actions) := by
    intro d hd d' hd' _
    rw [hasked d hd, hasked d' hd']
  have hsized : ∀ d ∈ asked h.actions, d.Sized := by
    intro d hd
    rw [hasked d hd]
    exact ⟨by decide, by decide, by decide, by decide⟩
  have hm : (.resume 1, .done (.ok signed)) ∈ h := by
    rw [hlog]
    simp
  have hlength : (successes h.actions).length = 1 := by
    rw [hlog]
    rfl
  exact ⟨h, _, h₄, hfree, hsized, hm, hlength, ((h₄.reuse rfl rfl hfree hsized).2.1 _ _ hm).1⟩

end RelayGateway.SignatureCache
