import RelayGateway.Proofs.Signing.Steps

/-! # The registry does not leak

A call that leaves takes its cell out of the registry unless another call holds it, so the last one to
leave a cell leaves no trace of it. What could go wrong is that a cell stays registered for a key that the
last call on it does not look at; but calls look at the key that their cell is registered for.
-/
namespace RelayGateway.SignatureCache
variable {c c' : SignatureCache} {id id' : CallId} {call : SignatureCall} {cell : CellId} {k k' : Cell}
variable {key : SignatureKey} {request : RelayRequest} {app : Application} {signed : SignedRelay}
variable {event : Event} {events : List Event} {d : Diary} {config : SignatureCacheConfig}

def Tended (c : SignatureCache) : Prop :=
  ∀ key cell, c.inflight.find? key = some cell → c.isHeld cell = true

theorem tended_new (config : SignatureCacheConfig) : Tended (new config) := nofun

theorem isHeld_release (hn : id' ≠ id) (hc : c.calls.find? id' = some call)
    (hs : call.stage.cell? = some cell) : (c.release id).isHeld cell = true := by
  refine isHeld_iff.2 ⟨id', call, ?_, hs⟩
  rw [find?_calls_release, if_neg hn, hc]

theorem Tended.release (h : Tended c) (hcoherent : Coherent c) (id : CallId) : Tended (c.release id) := by
  intro key cell hi
  have hregistered := of_find?_inflight_release hi
  obtain ⟨id', call, hc, hs⟩ := isHeld_iff.1 (h key cell hregistered)
  by_cases hn : id' = id
  · subst hn
    obtain rfl := hcoherent.own hc hs hregistered
    rw [release_of_cell hc hs] at hi ⊢
    by_cases hheld : { c with calls := c.calls.erase id' }.isHeld cell = true
    · exact hheld
    · dsimp only at hi
      rw [if_pos ⟨hregistered, .inr hheld⟩, Table.find?_erase, if_pos rfl] at hi
      cases hi
  · exact isHeld_release hn hc hs

theorem Tended.setCell_release (h : Tended c) (hcoherent : Coherent c) (hk : c.cells.find? cell = some k)
    (he : k'.value = none → k.value = none) (id : CallId) : Tended ((c.setCell cell k').release id) :=
  Tended.release (c := c.setCell cell k') h (hcoherent.setCell hk he) id

/-- A call may come, or go on while it holds what it has held. -/
theorem Tended.addCall (h : Tended c)
    (keeps : ∀ old cell, c.calls.find? id = some old → old.stage.cell? = some cell →
      call.stage.cell? = some cell) : Tended { c with calls := c.calls.insert id call } := by
  intro key cell hi
  obtain ⟨id', old, hc, hs⟩ := isHeld_iff.1 (h key cell hi)
  by_cases hn : id' = id
  · subst hn
    exact isHeld_iff.2 ⟨id', call, Table.find?_insert_self .., keeps old cell hc hs⟩
  · refine isHeld_iff.2 ⟨id', old, ?_, hs⟩
    dsimp only
    rw [Table.find?_insert_of_ne _ hn, hc]

/-- A cell that is made for a call is held by it. -/
theorem Tended.enter (h : Tended c) (new : c.calls.find? id = none) (request : RelayRequest)
    (app : Application) : Tended (c.enter id request app) := by
  intro key cell hi
  have hself : (c.enter id request app).calls.find? id =
      some ⟨request, app, .waiting (c.cellFor (SignatureKey.ofRequest request app)).2⟩ :=
    find?_calls_enter_self
  have hothers : c.inflight.find? key = some cell → (c.enter id request app).isHeld cell = true := by
    intro hregistered
    obtain ⟨id', call, hc, hs⟩ := isHeld_iff.1 (h key cell hregistered)
    have hn : id' ≠ id := by
      rintro rfl
      cases new.symm.trans hc
    refine isHeld_iff.2 ⟨id', call, ?_, hs⟩
    rw [find?_calls_enter, if_neg hn, hc]
  rw [inflight_enter] at hi
  unfold cellFor at hi hself
  cases hj : c.inflight.find? (SignatureKey.ofRequest request app) with
  | some joined =>
    rw [hj] at hi
    exact hothers hi
  | none =>
    rw [hj] at hi hself
    dsimp only at hi hself
    rw [Table.find?_insert] at hi
    split at hi
    · cases hi
      exact isHeld_iff.2 ⟨id, _, hself, rfl⟩
    · exact hothers hi

theorem Tended.recheck (h : Tended c) (hcoherent : Coherent c) (seen : Option SignedRelay)
    (hc : c.calls.find? id = some call) (hs : call.stage = .waiting cell)
    (hk : c.cells.find? cell = some k) : Tended (c.recheck id call cell seen).cache := by
  cases seen with
  | some signed =>
    rw [recheck_some hk]
    refine h.setCell_release hcoherent hk ?_ id
    intro he
    cases he
  | none =>
    refine h.addCall fun old x hold hx => ?_
    cases hold.symm.trans hc
    rw [hs] at hx
    exact hx

theorem Tended.cancel (h : Tended c) (hcoherent : Coherent c) (id : CallId) : Tended (c.cancel id).1 := by
  cases hc : c.calls.find? id with
  | none => rwa [cancel_of_none hc]
  | some call =>
    cases hs : call.stage.cell? with
    | none =>
      rw [cancel_of_direct hc hs]
      exact h.release hcoherent id
    | some cell =>
      obtain ⟨k, hk⟩ := hcoherent.held hc hs
      by_cases ht : k.turn = some id
      · rw [cancel_of_turn hc hs hk ht]
        exact h.setCell_release hcoherent hk (by exact fun he => he) id
      · rw [cancel_of_cell hc hs hk ht]
        exact h.setCell_release hcoherent hk (by exact fun he => he) id

theorem Tended.sweep (h : Tended c) : Tended c.sweep := by
  intro key cell hi
  rw [SignatureCache.sweep, Table.find?_filter, Option.filter_eq_some_iff] at hi
  exact h key cell hi.1

theorem Move.tended (move : Move c event c') (horderly : Orderly c) (h : Tended c) : Tended c' := by
  have hcoherent := horderly.toCoherent
  cases move with
  | bypass disabled new =>
    refine h.addCall fun old cell hold _ => ?_
    cases new.symm.trans hold
  | leave found stage => exact h.release hcoherent _
  | hit enabled meant => exact h
  | enter enabled new => exact h.enter new _ _
  | adopt found stage shared filled => exact h.release hcoherent _
  | recheck seen found stage shared empty turn => exact h.recheck hcoherent seen found stage shared
  | keep signed found stage =>
    unfold store
    split <;> exact h
  | fill signed found stage =>
    obtain ⟨k, hk, -, -⟩ := horderly.turns found stage
    rw [fill_of_some hk]
    refine h.setCell_release hcoherent hk ?_ _
    intro he
    cases he
  | fail e found stage =>
    obtain ⟨k, hk, -, -⟩ := horderly.turns found stage
    rw [passTurn_of_some hk]
    exact h.setCell_release hcoherent hk (by exact fun he => he) _
  | cancel id => exact h.cancel hcoherent id
  | evict key => exact h
  | clear => exact h
  | sweep => exact h.sweep

theorem Run.tended (run : Run c events c') (horderly : Orderly c) (h : Tended c) : Tended c' := by
  induction run with
  | refl => exact h
  | snoc run move ih => exact move.tended (run.orderly horderly) ih

theorem Served.tended (served : Served config d c) : Tended c := by
  obtain ⟨events, hrun⟩ := served.run
  exact hrun.tended (orderly_new config) (tended_new config)

/-- Whoever holds a registered cell is in progress and asks for what it is registered for. -/
theorem Served.holder (served : Served config d c) (registered : c.inflight.find? key = some cell) :
    ∃ id request app stage, d.Open id request app ∧ SignatureKey.ofRequest request app = key ∧
      c.calls.find? id = some ⟨request, app, stage⟩ ∧ stage.cell? = some cell := by
  obtain ⟨id, call, hc, hs⟩ := isHeld_iff.1 (served.tended key cell registered)
  exact ⟨id, call.request, call.app, call.stage, served.fits.present hc,
    served.orderly.own hc hs registered, hc, hs⟩

/-- However the calls interleave, and however each of them ends: a cell that is registered for a key is
held by a call for that key that is still in progress; so no cell is registered for a key all of whose
calls have ended, and none at all when no call is in progress. -/
theorem Served.registry_tended (served : Served config d c) :
    (∀ key cell, c.inflight.find? key = some cell →
      ∃ id request app stage, d.Open id request app ∧ SignatureKey.ofRequest request app = key ∧
        c.calls.find? id = some ⟨request, app, stage⟩ ∧ stage.cell? = some cell) ∧
    (∀ key, (∀ id request app, .called id request app ∈ d →
      SignatureKey.ofRequest request app = key → id ∈ d.ended) → c.inflight.find? key = none) ∧
    ((∀ id request app, ¬ d.Open id request app) → c.stats.inflight = 0) := by
  refine ⟨fun key cell hi => served.holder hi, ?_, ?_⟩
  · intro key hended
    cases hi : c.inflight.find? key with
    | none => rfl
    | some cell =>
      obtain ⟨id, request, app, stage, ⟨hcalled, hthere⟩, hkey, -, -⟩ := served.holder hi
      exact absurd (hended id request app hcalled hkey) hthere
  · intro hnobody
    have hempty : c.inflight.isEmpty = true := by
      refine (Table.isEmpty_iff _).2 fun key => ?_
      cases hi : c.inflight.find? key with
      | none => rfl
      | some cell =>
        obtain ⟨id, request, app, stage, hopen, -, -, -⟩ := served.holder hi
        exact absurd hopen (hnobody id request app)
    exact List.length_eq_zero_iff.2 (List.isEmpty_iff.1 hempty)

/-- The first of two calls fails and leaves its cell to the second; when that is dropped nothing is left. -/
theorem registry_left_empty :
    ∃ d c d' c', Served default d c ∧ 0 ∈ d.ended ∧
      c.inflight.find? (SignatureKey.ofRequest default default) = some 0 ∧
      (∃ id request app stage, d.Open id request app ∧
        c.calls.find? id = some ⟨request, app, stage⟩ ∧ stage.cell? = some 0) ∧
      Served default d' c' ∧ 0 ∈ d'.ended ∧ 1 ∈ d'.ended ∧ c'.stats.inflight = 0 := by
  obtain ⟨c, served, hfirst, hsecond, hcell, hi⟩ := served_waiting
  have hfailed := (served.finish hfirst rfl (.error (.signing "no key"))).1
  rw [finish_of_error hfirst rfl hcell] at hfailed
  have hleft : ((c.setCell 0 ⟨none, some 1, []⟩).release 0).inflight.find?
      (SignatureKey.ofRequest default default) = some 0 :=
    find?_inflight_release (by decide) hsecond rfl (Table.find?_insert_self ..) rfl hi
  obtain ⟨id, request, app, stage, hopen, -, hc, hs⟩ := hfailed.registry_tended.1 _ _ hleft
  have hdropped := hfailed.cancel (show Diary.Open _ 1 default default from ⟨by simp, by decide⟩)
  have hnothing := hdropped.registry_tended.2.2 fun id request app hopen => hopen.2 hopen.mem_callers
  exact ⟨_, _, _, _, hfailed, by decide, hleft, ⟨id, request, app, stage, hopen, hc, hs⟩, hdropped,
    by decide, by decide, hnothing⟩

end RelayGateway.SignatureCache
