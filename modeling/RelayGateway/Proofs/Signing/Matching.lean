import RelayGateway.Proofs.Signing.History
import RelayGateway.Proofs.Signing.Vouched

/-! # Signatures that are given out again

Computations may return a signature for other data than they were asked for. One that was stored is looked
at before it is given out, and dropped if it does not match. What a call has waited for is given to it
unseen: it matches if it matched for the call that has computed it.
-/
namespace RelayGateway

def RelayRequest.dataFor (r : RelayRequest) (app : Application) : RelayData :=
  ⟨r.header.sessionId, r.supplier, app.address, r.payload⟩

def SignedRelay.Matches (s : SignedRelay) (r : RelayRequest) (app : Application) : Prop :=
  s.isFor r.header.sessionId r.supplier app.address = true

theorem SignedRelay.matches_iff {s : SignedRelay} {r r' : RelayRequest} {app app' : Application}
    (same : r.dataFor app = r'.dataFor app') : s.Matches r app ↔ s.Matches r' app' := by
  obtain ⟨hsession, hsupplier, happ, -⟩ := RelayData.mk.inj same
  unfold SignedRelay.Matches
  rw [hsession, hsupplier, happ]

namespace SignatureCache
variable {c c' : SignatureCache} {id id' : CallId} {call : SignatureCall} {cell : CellId} {k k' : Cell}
variable {key : SignatureKey} {signed : SignedRelay} {request request' : RelayRequest}
variable {app app' : Application} {result : Except SignerError SignedRelay}

/-! ## Newcomers join empty cells -/

/-- No cell that is registered for newcomers is filled. -/
def Joinable (c : SignatureCache) : Prop :=
  ∀ key cell k, c.inflight.find? key = some cell → c.cells.find? cell = some k → k.value = none

theorem joinable_new (config : SignatureCacheConfig) : Joinable (new config) := nofun

theorem Joinable.release (h : Joinable c) (id : CallId) : Joinable (c.release id) :=
  fun key cell k hi hk => h key cell k (of_find?_inflight_release hi) (of_find?_cells_release hk)

theorem Joinable.setCell (h : Joinable c) (hk : c.cells.find? cell = some k) (hv : k'.value = k.value) :
    Joinable (c.setCell cell k') := by
  intro key x y hi hx
  rw [find?_cells_setCell] at hx
  split at hx
  · rename_i heq
    cases hx
    exact hv.trans (h key cell k (heq ▸ hi) hk)
  · exact h key x y hi hx

/-- A call that fills its cell takes it out of the registry when it leaves. -/
theorem Joinable.fill_release (h : Joinable c) (hcoherent : Coherent c)
    (hc : c.calls.find? id = some call) (hs : call.stage.cell? = some cell)
    (hk : c.cells.find? cell = some k) (he : k.value = none) :
    Joinable ((c.setCell cell ⟨some signed, none, []⟩).release id) := by
  have hjoined := hcoherent.joined hc hs hk he
  have hfilled : (c.setCell cell ⟨some signed, none, []⟩).cells.find? cell = some ⟨some signed, none, []⟩ :=
    Table.find?_insert_self _ _ _
  intro key x y hi hx
  have hregistered : c.inflight.find? key = some x :=
    of_find?_inflight_release (c := c.setCell cell _) hi
  have hy := of_find?_cells_release hx
  rw [find?_cells_setCell] at hy
  split at hy
  · rename_i heq
    subst heq
    have hkey := hcoherent.separate hregistered hjoined
    rw [release_of_cell (c := c.setCell x ⟨some signed, none, []⟩) hc hs] at hi
    dsimp only at hi
    rw [if_pos ⟨hjoined, .inl (by rw [hfilled]; rfl)⟩, hkey, Table.find?_erase, if_pos rfl] at hi
    cases hi
  · exact h key x y hregistered hy

theorem Joinable.cellFor (h : Joinable c) (key : SignatureKey) :
    Joinable (c.cellFor key).1 := by
  unfold SignatureCache.cellFor
  cases hi : c.inflight.find? key with
  | some cell => exact h
  | none =>
    intro key' x y hx hy
    dsimp only at hx hy
    rw [Table.find?_insert] at hx hy
    split at hy
    · cases hy
      rfl
    · split at hx
      · cases hx
        exact absurd rfl ‹_›
      · exact h key' x y hx hy

theorem inflight_enter : (c.enter id request app).inflight =
    (c.cellFor (SignatureKey.ofRequest request app)).1.inflight := by
  unfold enter
  generalize c.cellFor (SignatureKey.ofRequest request app) = joined
  obtain ⟨c', cell⟩ := joined
  dsimp only
  split <;> rfl

theorem Joinable.enter (h : Joinable c) (id : CallId) (request : RelayRequest)
    (app : Application) : Joinable (c.enter id request app) := by
  unfold SignatureCache.enter
  have hc := h.cellFor (SignatureKey.ofRequest request app)
  generalize c.cellFor (SignatureKey.ofRequest request app) = joined at hc
  obtain ⟨c', cell⟩ := joined
  have hadd : Joinable { c' with calls := c'.calls.insert id ⟨request, app, .waiting cell⟩ } := hc
  dsimp only at hadd ⊢
  split
  · rename_i queue hk
    exact hadd.setCell hk rfl
  · rename_i turn queue hk
    exact hadd.setCell hk rfl
  · exact hadd

theorem Joinable.resume (h : Joinable c) (horderly : Orderly c) (id : CallId) :
    Joinable (c.resume id).cache := by
  have hres := resumed c id
  generalize c.resume id = step at hres ⊢
  cases hres with
  | stays pending => exact h
  | adopts found stage shared filled => exact h.release id
  | @rechecks call cell k found stage shared empty turn =>
    have hcell : call.stage.cell? = some cell := by rw [stage]; rfl
    unfold takeTurn
    cases hf : c.entries.find? call.key with
    | none => exact h
    | some signed =>
      rw [recheck_some shared]
      exact h.fill_release horderly.toCoherent found hcell shared empty

theorem Joinable.join (h : Joinable c) (horderly : Orderly c) (id : CallId) (request : RelayRequest)
    (app : Application) : Joinable (c.join id request app).cache :=
  Joinable.resume (h.enter id request app) (horderly.enter id request app) id

theorem Joinable.begin (h : Joinable c) (horderly : Orderly c) (id : CallId) (request : RelayRequest)
    (app : Application) : Joinable (c.begin id request app).cache := by
  rcases begin_cases c id request app with ⟨signed, -, heq⟩ | heq | heq | ⟨-, heq⟩ <;> rw [heq]
  · exact h
  · exact Joinable.join (c := c.evict _) h (horderly.of_eq rfl rfl rfl rfl rfl) id request app
  · exact h.join horderly id request app
  · exact h

theorem Joinable.finish (h : Joinable c) (horderly : Orderly c) (id : CallId)
    (result : Except SignerError SignedRelay) : Joinable (c.finish id result).cache := by
  unfold SignatureCache.finish
  cases hc : c.calls.find? id with
  | none => exact h
  | some call =>
    dsimp only
    cases hs : call.stage with
    | waiting cell => exact h
    | direct => exact h.release id
    | computing cell =>
      obtain ⟨k, hk, he, -⟩ := horderly.turns hc hs
      have hcell : call.stage.cell? = some cell := by rw [hs]; rfl
      cases result with
      | error e =>
        dsimp only
        rw [passTurn_of_some hk]
        have hpassed : Joinable (c.setCell cell { k with turn := k.queue.head?, queue := k.queue.tail }) :=
          h.setCell hk rfl
        exact hpassed.release id
      | ok signed =>
        have hkept : (c.store call.key signed).calls.find? id = some call := by rw [calls_store, hc]
        have hk' : (c.store call.key signed).cells.find? cell = some k := by
          unfold SignatureCache.store
          split <;> exact hk
        have hstored : Joinable (c.store call.key signed) := by
          unfold SignatureCache.store
          split <;> exact h
        have hcoherent : Coherent (c.store call.key signed) :=
          (Move.keep signed hc hs).orderly horderly |>.toCoherent
        dsimp only
        rw [fill_of_some hk']
        exact hstored.fill_release hcoherent hkept hcell hk' he

theorem Joinable.cancel (h : Joinable c) (horderly : Orderly c) (id : CallId) : Joinable (c.cancel id).1 := by
  cases hc : c.calls.find? id with
  | none => rwa [cancel_of_none hc]
  | some call =>
    cases hs : call.stage.cell? with
    | none =>
      rw [cancel_of_direct hc hs]
      exact h.release id
    | some cell =>
      obtain ⟨k, hk⟩ := horderly.held hc hs
      have hset : ∀ turn queue, Joinable (c.setCell cell ⟨k.value, turn, queue⟩) :=
        fun turn queue => h.setCell hk rfl
      by_cases ht : k.turn = some id
      · rw [cancel_of_turn hc hs hk ht]
        exact Joinable.release (hset _ _) id
      · rw [cancel_of_cell hc hs hk ht]
        exact Joinable.release (hset _ _) id

theorem Joinable.sweep (h : Joinable c) : Joinable c.sweep := by
  intro key x y hi hx
  rw [SignatureCache.sweep, Table.find?_filter, Option.filter_eq_some_iff] at hi
  exact h key x y hi.1 hx

theorem hits_enter : (c.enter id request app).hits = c.hits := by
  unfold enter cellFor
  cases c.inflight.find? (SignatureKey.ofRequest request app) <;> dsimp only <;> split <;> rfl

/-- A call that finds nothing in the store when it joins has to wait, or to compute. -/
theorem Joinable.join_vacant (h : Joinable c)
    (vacant : c.entries.find? (SignatureKey.ofRequest request app) = none) :
    (∀ result, (c.join id request app).progress ≠ .done result) ∧
      (c.join id request app).cache.entries = c.entries ∧
      (c.join id request app).cache.hits = c.hits := by
  have hcell : (c.enter id request app).inflight.find? (SignatureKey.ofRequest request app) =
      some (c.cellFor (SignatureKey.ofRequest request app)).2 := by
    rw [inflight_enter]
    exact find?_inflight_cellFor c (SignatureKey.ofRequest request app)
  unfold SignatureCache.join
  have hres := resumed (c.enter id request app) id
  generalize (c.enter id request app).resume id = step at hres ⊢
  cases hres with
  | stays pending => exact ⟨pending, entries_enter, hits_enter⟩
  | adopts found stage shared filled =>
    cases found.symm.trans find?_calls_enter_self
    cases stage
    have hempty := h.enter id request app _ _ _ hcell shared
    cases hempty.symm.trans filled
  | @rechecks call cell k found stage shared empty turn =>
    have hkey : call.key = SignatureKey.ofRequest request app := by
      rw [Option.some.inj (found.symm.trans find?_calls_enter_self)]
      rfl
    rw [takeTurn, entries_enter, hkey, vacant]
    exact ⟨nofun, entries_enter, hits_enter⟩

theorem find?_entries_evict : (c.evict key).entries.find? key = none := by
  rw [evict, Table.find?_erase, if_pos rfl]

/-- A call that is answered at once is answered from the store, with a signature that matches. -/
theorem Joinable.begin_done (h : Joinable c)
    (hdone : (c.begin id request app).progress = .done (.ok signed)) : signed.Matches request app := by
  unfold SignatureCache.begin at hdone
  split at hdone
  · dsimp only at hdone
    split at hdone
    · split at hdone
      · next hmatches =>
        cases hdone
        exact hmatches
      · have hevicted : Joinable (c.evict (SignatureKey.ofRequest request app)) := h
        exact absurd hdone ((hevicted.join_vacant find?_entries_evict).1 _)
    · next hvacant => exact absurd hdone ((h.join_vacant hvacant).1 _)
  · cases hdone

/-- A stored signature that does not match is dropped, and the call goes on as if it had not been there. -/
theorem Joinable.begin_mismatch (h : Joinable c) (henabled : c.config.enabled = true)
    (hstored : c.entries.find? (SignatureKey.ofRequest request app) = some signed)
    (hmismatch : ¬ signed.Matches request app) :
    (∀ result, (c.begin id request app).progress ≠ .done result) ∧
      (c.begin id request app).cache.entries = c.entries.erase (SignatureKey.ofRequest request app) ∧
      (c.begin id request app).cache.hits = c.hits := by
  have heq : c.begin id request app =
      (c.evict (SignatureKey.ofRequest request app)).join id request app := by
    unfold SignatureCache.begin
    rw [if_pos henabled]
    dsimp only
    rw [hstored]
    exact if_neg hmismatch
  have hevicted : Joinable (c.evict (SignatureKey.ofRequest request app)) := h
  rw [heq]
  exact hevicted.join_vacant find?_entries_evict

/-! ## What happens to a cache -/

inductive Happening where
  | step (a : Action)
  /-- A call that has begun and found nothing of use in the store, perhaps a while ago, joins a cell. -/
  | join (id : CallId) (request : RelayRequest) (app : Application)
  /-- A signature leaves the store. -/
  | evict (key : SignatureKey)
  | clear

def Happening.asks? : Happening → Option (CallId × RelayRequest × Application)
  | step (.begin id request app) => some (id, request, app)
  | join id request app => some (id, request, app)
  | _ => none

def happen (c : SignatureCache) : Happening → Step
  | .step a => c.act a
  | .join id request app => c.join id request app
  | .evict key => ⟨c.evict key, .wait, []⟩
  | .clear => ⟨c.clear, .wait, []⟩

abbrev Usage := List (Happening × Progress)

namespace Usage

def Begun (u : Usage) (id : CallId) (request : RelayRequest) (app : Application) : Prop :=
  ∃ x ∈ u, x.1.asks? = some (id, request, app)

def Returned (u : Usage) (id : CallId) (signed : SignedRelay) : Prop :=
  (.step (.finish id (.ok signed)), .done (.ok signed)) ∈ u

/-- The call `id` has got `signed` without a computation of its own, and without looking at it. -/
def Received (u : Usage) (id : CallId) (signed : SignedRelay) : Prop :=
  (.step (.resume id), .done (.ok signed)) ∈ u ∨
    ∃ request app, (.join id request app, .done (.ok signed)) ∈ u

def demanded (u : Usage) : List RelayData :=
  u.filterMap fun x => x.1.asks?.map fun asked => asked.2.1.dataFor asked.2.2

/-- A call that asks for the key has had `signed` from its own computation. -/
def Traced (u : Usage) (key : SignatureKey) (signed : SignedRelay) : Prop :=
  ∃ id request app, u.Begun id request app ∧ u.Returned id signed ∧
    SignatureKey.ofRequest request app = key

end Usage

variable {u : Usage} {x : Happening} {config : SignatureCacheConfig} {progress : Progress}

/-- What can happen next. What the computations return is up to the callers. -/
inductive Possible (u : Usage) (c : SignatureCache) : Happening → Prop where
  | begin {id : CallId} {request : RelayRequest} {app : Application}
      (new : ∀ request' app', ¬ u.Begun id request' app') : Possible u c (.step (.begin id request app))
  | join {id : CallId} {request : RelayRequest} {app : Application} (enabled : c.config.enabled = true)
      (new : ∀ request' app', ¬ u.Begun id request' app') : Possible u c (.join id request app)
  | resume (id : CallId) : Possible u c (.step (.resume id))
  | finish {id : CallId} {call : SignatureCall} (result : Except SignerError SignedRelay)
      (found : c.calls.find? id = some call) (computing : isComputing call = true) :
      Possible u c (.step (.finish id result))
  | cancel (id : CallId) : Possible u c (.step (.cancel id))
  | sweep : Possible u c (.step .sweep)
  | evict (key : SignatureKey) : Possible u c (.evict key)
  | clear : Possible u c .clear

inductive Used (config : SignatureCacheConfig) : Usage → SignatureCache → Prop where
  | start : Used config [] (new config)
  | step {u : Usage} {c : SignatureCache} {x : Happening} (used : Used config u c)
      (possible : Possible u c x) : Used config (u ++ [(x, (c.happen x).progress)]) (c.happen x).cache

/-! ## Where signatures come from -/

theorem Usage.Begun.append (h : u.Begun id request app) (later : Usage) :
    (u ++ later).Begun id request app := by
  obtain ⟨x, hx, hasks⟩ := h
  exact ⟨x, List.mem_append_left _ hx, hasks⟩

theorem Usage.Begun.last (hasks : x.asks? = some (id, request, app)) :
    Usage.Begun (u ++ [(x, progress)]) id request app :=
  ⟨(x, progress), List.mem_append_right _ List.mem_cons_self, hasks⟩

theorem Usage.Traced.append (h : u.Traced key signed) (later : Usage) :
    (u ++ later).Traced key signed := by
  obtain ⟨id, request, app, hbegun, hreturned, hkey⟩ := h
  exact ⟨id, request, app, hbegun.append later, List.mem_append_left _ hreturned, hkey⟩

theorem Usage.Begun.demanded (h : u.Begun id request app) : request.dataFor app ∈ u.demanded := by
  obtain ⟨x, hx, hasks⟩ := h
  refine List.mem_filterMap.2 ⟨x, hx, ?_⟩
  rw [hasks]
  rfl

structure Attended (u : Usage) (c : SignatureCache) : Prop where
  orderly : Orderly c
  joinable : Joinable c
  /-- Whoever is there has begun. -/
  begun : ∀ id request app, c.Asks id request app → u.Begun id request app
  /-- What is given out has been computed for the same key. -/
  traced : Vouched u.Traced c

theorem attended_new (config : SignatureCacheConfig) : Attended [] (new config) where
  orderly := orderly_new config
  joinable := joinable_new config
  begun _ _ _ h := nomatch h.choose_spec.1
  traced := vouched_new config

/-- Nobody asks for anything new, and nothing new is given out. -/
theorem Attended.carried (h : Attended u c) (x : Happening) (progress : Progress)
    (horderly : Orderly c') (hjoinable : Joinable c') (hvouched : Vouched u.Traced c')
    (hasks : ∀ id request app, c'.Asks id request app → c.Asks id request app) :
    Attended (u ++ [(x, progress)]) c' where
  orderly := horderly
  joinable := hjoinable
  begun id request app ha := (h.begun id request app (hasks id request app ha)).append _
  traced := hvouched.mono fun htraced => htraced.append _

/-- A call comes in that has a name of its own. -/
theorem Attended.begun_last (h : Attended u c) (x : Happening) (progress : Progress)
    (hasks : x.asks? = some (id, request, app))
    (ha : id' = id ∧ request' = request ∧ app' = app ∨ c.Asks id' request' app') :
    Usage.Begun (u ++ [(x, progress)]) id' request' app' := by
  rcases ha with ⟨rfl, rfl, rfl⟩ | ha
  · exact .last hasks
  · exact (h.begun id' request' app' ha).append _

theorem Attended.begin (h : Attended u c) (progress : Progress) :
    Attended (u ++ [(.step (.begin id request app), progress)]) (c.begin id request app).cache where
  orderly := h.orderly.begin id request app
  joinable := h.joinable.begin h.orderly id request app
  begun _ _ _ ha := h.begun_last _ progress rfl ha.cases_begin
  traced := (h.traced.begin h.orderly id request app).mono fun htraced => htraced.append _

theorem Attended.join (h : Attended u c) (progress : Progress) :
    Attended (u ++ [(.join id request app, progress)]) (c.join id request app).cache where
  orderly := h.orderly.join id request app
  joinable := h.joinable.join h.orderly id request app
  begun _ _ _ ha := h.begun_last _ progress rfl (ha.of_join.imp_right And.right)
  traced := (h.traced.join h.orderly id request app).mono fun htraced => htraced.append _

theorem Attended.finish (h : Attended u c) (hc : c.calls.find? id = some call)
    (computing : isComputing call = true) (result : Except SignerError SignedRelay) :
    Attended (u ++ [(.step (.finish id result), (c.finish id result).progress)])
      (c.finish id result).cache where
  orderly := by
    obtain ⟨events, hrun⟩ := finish_run c id result
    exact hrun.orderly h.orderly
  joinable := h.joinable.finish h.orderly id result
  begun _ _ _ ha := (h.begun _ _ _ ha.of_finish).append _
  traced := by
    refine (h.traced.mono fun htraced => htraced.append _).finish h.orderly ?_
    rintro call' signed hc' rfl
    cases hc.symm.trans hc'
    refine ⟨id, call.request, call.app, (h.begun _ _ _ ⟨call, hc, rfl, rfl⟩).append _, ?_, rfl⟩
    rw [finish_done hc computing]
    exact List.mem_append_right _ List.mem_cons_self

theorem Attended.step (h : Attended u c) (possible : Possible u c x) :
    Attended (u ++ [(x, (c.happen x).progress)]) (c.happen x).cache := by
  cases possible with
  | begin new => exact h.begin _
  | join enabled new => exact h.join _
  | resume id =>
    obtain ⟨events, hrun⟩ := resume_run c id
    exact h.carried _ _ (hrun.orderly h.orderly) (h.joinable.resume h.orderly id)
      (h.traced.resume h.orderly id) fun _ _ _ ha => ha.of_resume
  | finish result found computing => exact h.finish found computing result
  | cancel id =>
    exact h.carried _ _ (h.orderly.cancel id) (h.joinable.cancel h.orderly id)
      (h.traced.cancel h.orderly id) fun _ _ _ ha => ha.of_cancel
  | sweep =>
    exact h.carried _ _ (Move.sweep.orderly h.orderly) h.joinable.sweep h.traced.sweep
      fun _ _ _ ha => ha
  | evict key =>
    exact h.carried _ _ (Move.orderly (.evict key) h.orderly) h.joinable (h.traced.evict key)
      fun _ _ _ ha => ha
  | clear =>
    exact h.carried _ _ (Move.clear.orderly h.orderly) h.joinable h.traced.clear fun _ _ _ ha => ha

theorem Used.attended (used : Used config u c) : Attended u c := by
  induction used with
  | start => exact attended_new config
  | step used possible ih => exact ih.step possible

/-- A call that is answered when it begins has been given a signature that matches. -/
theorem Used.looked (used : Used config u c)
    (hm : (.step (.begin id request app), .done (.ok signed)) ∈ u) : signed.Matches request app := by
  induction used with
  | start => cases hm
  | step used possible ih =>
    rcases List.mem_append.1 hm with hm | hm
    · exact ih hm
    · obtain ⟨rfl, hdone⟩ := Prod.mk.inj (List.mem_singleton.1 hm)
      exact used.attended.joinable.begin_done hdone.symm

/-- What a call receives unseen has been computed for a call with the same key. -/
theorem Used.received (used : Used config u c) (hreceived : u.Received id signed) :
    ∃ request app, u.Begun id request app ∧ u.Traced (SignatureKey.ofRequest request app) signed := by
  induction used with
  | start => rcases hreceived with hm | ⟨_, _, hm⟩ <;> cases hm
  | @step u c x used possible ih =>
    have hlater : ∀ {request app}, u.Begun id request app →
        u.Traced (SignatureKey.ofRequest request app) signed →
        ∃ request app, Usage.Begun (u ++ [(x, (c.happen x).progress)]) id request app ∧
          Usage.Traced (u ++ [(x, (c.happen x).progress)])
            (SignatureKey.ofRequest request app) signed :=
      fun hbegun htraced => ⟨_, _, hbegun.append _, htraced.append _⟩
    rcases hreceived with hm | ⟨request, app, hm⟩ <;> rcases List.mem_append.1 hm with hm | hm
    · obtain ⟨request, app, hbegun, htraced⟩ := ih (.inl hm)
      exact hlater hbegun htraced
    · obtain ⟨rfl, hdone⟩ := Prod.mk.inj (List.mem_singleton.1 hm)
      obtain ⟨call, signed', found, hsigned, htraced⟩ := used.attended.traced.resume_done hdone.symm
      cases hsigned
      exact hlater (used.attended.begun _ _ _ ⟨call, found, rfl, rfl⟩) htraced
    · obtain ⟨request, app, hbegun, htraced⟩ := ih (.inr ⟨request, app, hm⟩)
      exact hlater hbegun htraced
    · obtain ⟨rfl, hdone⟩ := Prod.mk.inj (List.mem_singleton.1 hm)
      obtain ⟨signed', hsigned, htraced⟩ := used.attended.traced.join_done hdone.symm
      cases hsigned
      exact ⟨request, app, .last rfl, htraced.append _⟩

/-- However the calls interleave and whatever their computations return, a call that is answered when it
begins is given a signature that matches; a stored signature that does not match is dropped, and the call
it was stored for is not answered by it; and what a call receives later without a computation of its own
has been computed for another call that asks for the same data, and matches if it matches there. -/
theorem Used.reused_matches (used : Used config u c) (hfree : RelayData.CollisionFree u.demanded)
    (hsized : ∀ d ∈ u.demanded, d.Sized) :
    (∀ id request app signed, (.step (.begin id request app), .done (.ok signed)) ∈ u →
      signed.Matches request app) ∧
    (∀ id request app signed, c.config.enabled = true →
      c.entries.find? (SignatureKey.ofRequest request app) = some signed →
      ¬ signed.Matches request app →
      (∀ result, (c.begin id request app).progress ≠ .done result) ∧
        (c.begin id request app).cache.entries = c.entries.erase (SignatureKey.ofRequest request app) ∧
        (c.begin id request app).cache.hits = c.hits) ∧
    ∀ id signed, u.Received id signed → ∃ request app, u.Begun id request app ∧
      ∃ id' request' app', u.Begun id' request' app' ∧ u.Returned id' signed ∧
        request'.dataFor app' = request.dataFor app ∧
        (signed.Matches request' app' ↔ signed.Matches request app) := by
  refine ⟨fun id request app signed hm => used.looked hm, ?_, ?_⟩
  · intro id request app signed henabled hstored hmismatch
    exact used.attended.joinable.begin_mismatch henabled hstored hmismatch
  · intro id signed hreceived
    obtain ⟨request, app, hbegun, id', request', app', hbegun', hreturned, hkey⟩ :=
      used.received hreceived
    have hdata : request'.dataFor app' = request.dataFor app :=
      hfree.eq_of_key hsized hbegun'.demanded hbegun.demanded hkey
    exact ⟨request, app, hbegun, id', request', app', hbegun', hreturned, hdata,
      SignedRelay.matches_iff hdata⟩

/-- Two calls ask for the same; what the first is given by its computation, the second receives. -/
theorem used_waiting (signed : SignedRelay) :
    ∃ u c, Used default u c ∧ u.Begun 0 default default ∧ u.Begun 1 default default ∧
      u.Returned 0 signed ∧ u.Received 1 signed ∧
      ∀ d ∈ u.demanded, d = (default : RelayRequest).dataFor default := by
  let first := (new default).happen (.step (.begin 0 default default))
  let second := first.cache.happen (.step (.begin 1 default default))
  let third := second.cache.happen (.step (.finish 0 (.ok signed)))
  let fourth := third.cache.happen (.step (.resume 1))
  have hi : first.cache.inflight.find? (SignatureKey.ofRequest default default) = some 0 :=
    Table.find?_insert_self ..
  have hsecond : second = ⟨{ first.cache with
      cells := first.cache.cells.insert 0 ⟨none, some 0, [1]⟩
      calls := first.cache.calls.insert 1 ⟨default, default, .waiting 0⟩ }, .wait, []⟩ := by
    simp only [second, happen, act, SignatureCache.begin, SignatureCache.join, SignatureCache.enter,
      SignatureCache.cellFor, hi]
    rfl
  have hthird : third.progress = .done (.ok signed) := by
    simp only [third, hsecond]
    rfl
  have hfourth : fourth.progress = .done (.ok signed) := by
    simp only [fourth, third, hsecond]
    rfl
  have hfound : second.cache.calls.find? 0 = some ⟨default, default, .computing 0⟩ := by
    rw [hsecond]
    rfl
  have h₁ : Used default [(.step (.begin 0 default default), .compute)] first.cache := by
    refine .step .start (.begin ?_)
    rintro request' app' ⟨x, hx, -⟩
    cases hx
  have h₂ : Used default [(.step (.begin 0 default default), .compute),
      (.step (.begin 1 default default), second.progress)] second.cache := by
    refine .step h₁ (.begin ?_)
    rintro request' app' ⟨x, hx, hasks⟩
    cases List.mem_singleton.1 hx
    cases hasks
  have h₃ : Used default [(.step (.begin 0 default default), .compute),
      (.step (.begin 1 default default), second.progress),
      (.step (.finish 0 (.ok signed)), third.progress)] third.cache :=
    .step h₂ (.finish _ hfound rfl)
  have h₄ : Used default [(.step (.begin 0 default default), .compute),
      (.step (.begin 1 default default), second.progress),
      (.step (.finish 0 (.ok signed)), third.progress),
      (.step (.resume 1), fourth.progress)] fourth.cache := .step h₃ (.resume 1)
  rw [hthird, hfourth] at h₄
  refine ⟨_, _, h₄, ⟨_, List.mem_cons_self, rfl⟩, ⟨_, List.mem_cons_of_mem _ List.mem_cons_self, rfl⟩,
    ?_, ?_, ?_⟩
  · simp [Usage.Returned]
  · simp [Usage.Received]
  · intro d hd
    simpa [Usage.demanded, Happening.asks?] using hd

/-- The second of two calls receives a signature that matches for both. -/
theorem reused_after_waiting :
    let signed : SignedRelay := ⟨default, [7]⟩
    ∃ u c, Used default u c ∧ RelayData.CollisionFree u.demanded ∧ (∀ d ∈ u.demanded, d.Sized) ∧
      u.Received 1 signed ∧ ∃ request app, u.Begun 1 request app ∧ signed.Matches request app := by
  intro signed
  obtain ⟨u, c, used, -, -, -, hreceived, hdemanded⟩ := used_waiting signed
  have hfree : RelayData.CollisionFree u.demanded := by
    intro d hd d' hd' _
    rw [hdemanded d hd, hdemanded d' hd']
  have hsized : ∀ d ∈ u.demanded, d.Sized := by
    intro d hd
    rw [hdemanded d hd]
    exact ⟨by decide, by decide, by decide, by decide⟩
  obtain ⟨request, app, hbegun, id', request', app', hbegun', -, -, hiff⟩ :=
    (used.reused_matches hfree hsized).2.2 1 signed hreceived
  have hmatches : signed.Matches default default := by
    unfold SignedRelay.Matches
    decide
  have hcomputed : signed.Matches request' app' :=
    (SignedRelay.matches_iff (hdemanded _ hbegun'.demanded)).2 hmatches
  exact ⟨u, c, used, hfree, hsized, hreceived, request, app, hbegun, hiff.1 hcomputed⟩

/-- A call that waits is given what was computed for another session, and does not look at it. -/
theorem reused_mismatch :
    ∃ u c id request app signed, Used default u c ∧ u.Begun id request app ∧ u.Received id signed ∧
      ¬ signed.Matches request app := by
  let signed : SignedRelay := ⟨{ (default : RelayRequest) with
    header := { (default : RelayRequest).header with sessionId := "other" } }, [7]⟩
  obtain ⟨u, c, used, -, hbegun, -, hreceived, -⟩ := used_waiting signed
  refine ⟨u, c, 1, default, default, signed, used, hbegun, hreceived, ?_⟩
  unfold SignedRelay.Matches
  decide

end SignatureCache
end RelayGateway
