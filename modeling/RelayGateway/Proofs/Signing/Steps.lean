import RelayGateway.Proofs.Signing.Diary
import RelayGateway.Proofs.Signing.Matching

/-! # The diary of the steps of calls

What is noted of a step of a call can be read off what the step has come to. So a diary can be kept of
everything that is done with a cache, and the notes say what the calls were answered.
-/
namespace RelayGateway.SignatureCache
variable {c : SignatureCache} {id : CallId} {call : SignatureCall} {cell : CellId} {d notes : Diary}
variable {request : RelayRequest} {app : Application} {config : SignatureCacheConfig}
variable {u : Usage} {x : Happening} {progress : Progress}

def Progress.told (id : CallId) : Progress → Diary
  | .done (.ok signed) => [.reused id signed]
  | .compute => [.computes id]
  | _ => []

theorem Served.resume (served : Served config d c) (found : c.calls.find? id = some call)
    (stage : call.stage = .waiting cell) :
    Served config (d ++ (c.resume id).progress.told id) (c.resume id).cache := by
  have hstill : Served config (d ++ []) c := by
    rw [List.append_nil]
    exact served
  cases hk : c.cells.find? cell with
  | none =>
    simp only [SignatureCache.resume, found, stage, hk]
    exact hstill
  | some k =>
    obtain ⟨value, turn, queue⟩ := k
    cases value with
    | some signed =>
      have hgiven : c.resume id = ⟨(c.release id).countHit, .done (.ok signed), []⟩ := by
        simp only [SignatureCache.resume, found, stage, hk]
      rw [hgiven]
      exact served.move (.adopt found stage hk rfl) (.adopt (by rw [hgiven]))
    | none =>
      simp only [SignatureCache.resume, found, stage, hk]
      split
      · next hturn =>
        have hmove := Move.recheck (c.entries.find? call.key) found stage hk rfl hturn
        unfold takeTurn
        cases hseen : c.entries.find? call.key with
        | none =>
          rw [hseen] at hmove
          exact served.move hmove (.start id)
        | some signed =>
          rw [hseen] at hmove
          exact served.move hmove (.found id signed)
      · exact hstill

theorem Served.join (served : Served config d c) (enabled : c.config.enabled = true)
    (looks : d.Looks c id request app) :
    Served config (d ++ (c.join id request app).progress.told id) (c.join id request app).cache :=
  (served.silent (.enter enabled looks.2) (.enter looks)).resume find?_calls_enter_self rfl

theorem Served.begin (served : Served config d c) (new : id ∉ d.callers) :
    Served config (d ++ .called id request app :: (c.begin id request app).progress.told id)
      (c.begin id request app).cache := by
  have hlooks : Diary.Looks (d ++ [.called id request app]) c id request app := served.fits.looks new
  rw [List.append_cons]
  unfold SignatureCache.begin
  split
  · next enabled =>
    have hcalled := served.call enabled request app new
    dsimp only
    split
    · split
      · next hmeant => exact hcalled.move (.hit enabled hmeant) (.hit _ hlooks)
      · have hevicted := hcalled.silent (.evict (SignatureKey.ofRequest request app)) (.evict _)
        exact hevicted.join enabled hlooks
    · exact hcalled.join enabled hlooks
  · next hdisabled =>
    rw [← List.append_cons]
    exact served.move (.bypass (Bool.eq_false_iff.2 hdisabled) hlooks.2) (.bypass new)

/-- A computation has ended; its call returns what `finish` says. -/
theorem Served.finish (served : Served config d c) (found : c.calls.find? id = some call)
    (computing : isComputing call = true) (result : Except SignerError SignedRelay) :
    Served config (d ++ [.computed id result]) (c.finish id result).cache ∧
      (c.finish id result).progress = .done result := by
  refine ⟨?_, finish_done found computing result⟩
  unfold SignatureCache.finish
  rw [found]
  dsimp only
  cases hs : call.stage with
  | waiting cell => cases computing.symm.trans (not_isComputing_of_stage hs)
  | direct => exact served.move (.leave found hs) (.leave id result)
  | computing cell =>
    cases result with
    | error e => exact served.move (.fail e found hs) (.fail id e)
    | ok signed =>
      have hkept := served.silent (.keep signed found hs) (.keep id signed)
      have found' : (c.store call.key signed).calls.find? id = some call := by rw [calls_store, found]
      exact hkept.move (.fill signed found' hs) (.fill id signed)

theorem Served.cancel (served : Served config d c) (there : d.Open id request app) :
    Served config (d ++ [.dropped id]) (c.cancel id).1 :=
  served.move (.cancel id) (.cancel there)

theorem Served.clear (served : Served config d c) : Served config (d ++ [.cleared]) c.clear :=
  served.move .clear .clear

theorem Served.sweep (served : Served config d c) : Served config d c.sweep :=
  served.silent .sweep .sweep

theorem Served.evict (served : Served config d c) (key : SignatureKey) :
    Served config d (c.evict key) :=
  served.silent (.evict key) (.evict key)

/-! ## Everything that is done with a cache -/

inductive Writes : Happening → Progress → Diary → Prop where
  | begin (id : CallId) (request : RelayRequest) (app : Application) (progress : Progress) :
      Writes (.step (.begin id request app)) progress (.called id request app :: progress.told id)
  | join (id : CallId) (request : RelayRequest) (app : Application) (progress : Progress) :
      Writes (.join id request app) progress (.called id request app :: progress.told id)
  | resume (id : CallId) (progress : Progress) : Writes (.step (.resume id)) progress (progress.told id)
  /-- The computation that the call goes on with is noted already. -/
  | goesOn (id : CallId) : Writes (.step (.resume id)) .compute []
  | finish (id : CallId) (result : Except SignerError SignedRelay) :
      Writes (.step (.finish id result)) (.done result) [.computed id result]
  | cancel (id : CallId) : Writes (.step (.cancel id)) .wait [.dropped id]
  /-- The call is gone already. -/
  | late (id : CallId) : Writes (.step (.cancel id)) .wait []
  | sweep : Writes (.step .sweep) .wait []
  | evict (key : SignatureKey) : Writes (.evict key) .wait []
  | clear : Writes .clear .wait [.cleared]

inductive Chronicle : Usage → Diary → Prop where
  | nil : Chronicle [] []
  | snoc {u : Usage} {d notes : Diary} {x : Happening} {progress : Progress} (chronicle : Chronicle u d)
      (writes : Writes x progress notes) : Chronicle (u ++ [(x, progress)]) (d ++ notes)

theorem callers_told (progress : Progress) (id : CallId) : Diary.callers (progress.told id) = [] := by
  unfold Progress.told
  split <;> rfl

/-- Who is written in as a caller has begun. -/
theorem Writes.asks (writes : Writes x progress notes) (come : id ∈ notes.callers) :
    ∃ request app, x.asks? = some (id, request, app) := by
  cases writes with
  | begin id' request app | join id' request app =>
    change id ∈ id' :: Diary.callers (progress.told id') at come
    rw [callers_told, List.mem_singleton] at come
    subst come
    exact ⟨request, app, rfl⟩
  | resume id' =>
    rw [callers_told] at come
    cases come
  | _ => cases come

theorem Chronicle.begun (chronicle : Chronicle u d) (come : id ∈ d.callers) :
    ∃ request app, u.Begun id request app := by
  induction chronicle with
  | nil => cases come
  | snoc chronicle writes ih =>
    rw [Diary.callers, List.filterMap_append, List.mem_append] at come
    rcases come with come | come
    · obtain ⟨request, app, hbegun⟩ := ih come
      exact ⟨request, app, hbegun.append _⟩
    · obtain ⟨request, app, hasks⟩ := writes.asks come
      exact ⟨request, app, .last hasks⟩

theorem Served.step (served : Served config d c) (chronicle : Chronicle u d) (possible : Possible u c x) :
    ∃ notes, Served config (d ++ notes) (c.happen x).cache ∧ Writes x (c.happen x).progress notes := by
  have hstill : Served config (d ++ []) c := by
    rw [List.append_nil]
    exact served
  cases possible with
  | begin new =>
    refine ⟨_, served.begin fun come => ?_, .begin ..⟩
    obtain ⟨request', app', hbegun⟩ := chronicle.begun come
    exact new request' app' hbegun
  | @join id request app enabled new =>
    have hnew : id ∉ d.callers := by
      intro come
      obtain ⟨request', app', hbegun⟩ := chronicle.begun come
      exact new request' app' hbegun
    have hjoined := (served.call enabled request app hnew).join enabled (served.fits.looks hnew)
    rw [← List.append_cons] at hjoined
    exact ⟨_, hjoined, .join ..⟩
  | resume id =>
    change ∃ notes, Served config _ (c.resume id).cache ∧ Writes _ (c.resume id).progress notes
    cases hc : c.calls.find? id with
    | none =>
      have hresume : c.resume id = ⟨c, .wait, []⟩ := by simp only [SignatureCache.resume, hc]
      rw [hresume]
      exact ⟨[], hstill, .resume id .wait⟩
    | some call =>
      cases hs : call.stage with
      | waiting cell => exact ⟨_, served.resume hc hs, .resume ..⟩
      | computing | direct =>
        have hresume : c.resume id = ⟨c, .compute, []⟩ := by simp only [SignatureCache.resume, hc, hs]
        rw [hresume]
        exact ⟨[], hstill, .goesOn id⟩
  | finish result found computing =>
    obtain ⟨hfinished, hdone⟩ := served.finish found computing result
    refine ⟨_, hfinished, ?_⟩
    change Writes _ (c.finish _ result).progress _
    rw [hdone]
    exact .finish ..
  | cancel id =>
    cases hc : c.calls.find? id with
    | some call => exact ⟨_, served.cancel (served.fits.present hc), .cancel id⟩
    | none =>
      refine ⟨[], ?_, .late id⟩
      change Served config _ (c.cancel id).1
      rw [cancel_of_none hc]
      exact hstill
  | sweep => exact ⟨[], by rw [List.append_nil]; exact served.sweep, .sweep⟩
  | evict key => exact ⟨[], by rw [List.append_nil]; exact served.evict key, .evict key⟩
  | clear => exact ⟨_, served.clear, .clear⟩

/-- Whatever is done with a cache, its diary can be written from it. -/
theorem Used.served (used : Used config u c) : ∃ d, Served config d c ∧ Chronicle u d := by
  induction used with
  | start => exact ⟨[], .start, .nil⟩
  | step used possible ih =>
    obtain ⟨d, served, chronicle⟩ := ih
    obtain ⟨notes, hserved, hwrites⟩ := served.step chronicle possible
    exact ⟨d ++ notes, hserved, chronicle.snoc hwrites⟩

/-- Two calls ask for the same: the first computes, the second waits for it. -/
theorem served_waiting : ∃ c,
    Served default [.called 0 default default, .computes 0, .called 1 default default] c ∧
      c.calls.find? 0 = some ⟨default, default, .computing 0⟩ ∧
      c.calls.find? 1 = some ⟨default, default, .waiting 0⟩ ∧
      c.cells.find? 0 = some ⟨none, some 0, [1]⟩ ∧
      c.inflight.find? (SignatureKey.ofRequest default default) = some 0 := by
  let first := ((new default).begin 0 default default).cache
  have hi : first.inflight.find? (SignatureKey.ofRequest default default) = some 0 :=
    Table.find?_insert_self ..
  have hsecond : first.begin 1 default default = ⟨{ first with
      cells := first.cells.insert 0 ⟨none, some 0, [1]⟩
      calls := first.calls.insert 1 ⟨default, default, .waiting 0⟩ }, .wait, []⟩ := by
    simp only [SignatureCache.begin, SignatureCache.join, SignatureCache.enter,
      SignatureCache.cellFor, hi]
    rfl
  have hbegun : Served default [.called 0 default default, .computes 0] first :=
    Served.begin .start List.not_mem_nil
  have hwaiting : Served default ([.called 0 default default, .computes 0] ++
      .called 1 default default :: (first.begin 1 default default).progress.told 1)
      (first.begin 1 default default).cache := hbegun.begin (by decide)
  rw [hsecond] at hwaiting
  exact ⟨_, hwaiting, rfl, rfl, Table.find?_insert_self .., hi⟩

end RelayGateway.SignatureCache
