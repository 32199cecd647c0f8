import Mathlib.Data.List.DropRight
import Mathlib.Data.List.Pairwise
import RelayGateway.Proofs.Signing.Steps

/-! # What the counters count

A call that returns a signature is counted once: as a miss when it has computed the signature itself, and
as a hit when not. Only the notes after the last `cleared` are counted, and only where the cache is
enabled.
-/
namespace RelayGateway.SignatureCache
variable {c c' : SignatureCache} {id id' : CallId} {call : SignatureCall} {cell : CellId}
variable {key : SignatureKey} {request : RelayRequest} {app : Application} {signed : SignedRelay}
variable {event : Event} {d notes : Diary} {n n' : Note} {config : SignatureCacheConfig}

def Note.answered? : Note → Option CallId
  | .computed id (.ok _) => some id
  | .reused id _ => some id
  | _ => none

def Note.isCleared : Note → Bool
  | .cleared => true
  | _ => false

inductive Note.Fruitless (id : CallId) : Note → Prop where
  | failed (e : SignerError) : Note.Fruitless id (.computed id (.error e))
  | dropped : Note.Fruitless id (.dropped id)

namespace Diary

def answered (d : Diary) : List CallId := d.filterMap Note.answered?

def sinceClear (d : Diary) : Diary := d.rtakeWhile fun n => !n.isCleared

def tally (d : Diary) : Nat × Nat := (d.sinceClear.borrowers.length, d.sinceClear.signers.length)

theorem sinceClear_cleared (d : Diary) : sinceClear (d ++ [.cleared]) = [] :=
  List.rtakeWhile_concat_neg _ _ _ nofun

theorem sinceClear_snoc (hn : n.isCleared = false) : sinceClear (d ++ [n]) = d.sinceClear ++ [n] :=
  List.rtakeWhile_concat_pos _ _ _ (by rw [hn]; rfl)

theorem tally_cleared (d : Diary) : tally (d ++ [.cleared]) = (0, 0) := by
  rw [tally, sinceClear_cleared]
  rfl

theorem tally_snoc (hn : n.isCleared = false) : tally (d ++ [n]) =
    (d.tally.1 + n.borrower?.toList.length, d.tally.2 + n.signer?.toList.length) := by
  unfold tally borrowers signers
  simp only [sinceClear_snoc hn, List.filterMap_append, List.filterMap_cons, List.filterMap_nil,
    List.length_append]
  cases n.borrower? <;> cases n.signer? <;> rfl

/-- Who is answered has either computed the signature or not. -/
theorem length_answered (d : Diary) : d.borrowers.length + d.signers.length = d.answered.length := by
  unfold borrowers signers answered
  induction d with
  | nil => rfl
  | cons n d ih =>
    cases n with
    | computed id result =>
      cases result with
      | ok signed =>
        simp only [List.filterMap_cons, Note.borrower?, Note.signer?, Note.answered?, List.length_cons]
        omega
      | error e => simpa only [List.filterMap_cons, Note.borrower?, Note.signer?, Note.answered?] using ih
    | reused id signed =>
      simp only [List.filterMap_cons, Note.borrower?, Note.signer?, Note.answered?, List.length_cons]
      omega
    | _ => simpa only [List.filterMap_cons, Note.borrower?, Note.signer?, Note.answered?] using ih

/-- A call has only one end. -/
theorem Proper.ends (h : d.Proper) (hn : n ∈ d) (hn' : n' ∈ d) (he : n.ended? = some id)
    (he' : n'.ended? = some id) : n = n' := by
  by_contra hne
  have hpairwise := List.pairwise_filterMap.1 h.ended
  have hsymm : Std.Symm fun n n' : Note =>
      ∀ id, n.ended? = some id → ∀ id', n'.ended? = some id' → id ≠ id' :=
    ⟨fun n n' hd id hid id' hid' => (hd id' hid' id hid).symm⟩
  exact hpairwise.forall hn hn' hne id he id he' rfl

/-- Who fails or is dropped is not answered. -/
theorem Proper.fruitless (h : d.Proper) (hn : n ∈ d) (hfruitless : n.Fruitless id) : id ∉ d.answered := by
  intro hm
  obtain ⟨n', hn', hid⟩ := List.mem_filterMap.1 hm
  have hend : n'.ended? = some id := by
    cases n' with
    | computed id' result =>
      cases result with
      | ok signed => exact hid
      | error e => cases hid
    | reused => exact hid
    | _ => cases hid
  cases hfruitless with
  | failed e =>
    cases h.ends hn hn' rfl hend
    cases hid
  | dropped =>
    cases h.ends hn hn' rfl hend
    cases hid

end Diary

/-! ## Counting in an enabled cache -/

def tally (c : SignatureCache) : Nat × Nat := (c.hits, c.misses)

theorem tally_release : (c.release id).tally = c.tally := by
  obtain ⟨_, _, _, h⟩ := release_eq c id
  rw [h]
  rfl

theorem tally_store : (c.store key signed).tally = c.tally := by
  unfold store
  split <;> rfl

theorem tally_fill : (c.fill cell signed).1.tally = c.tally := by
  unfold fill
  split <;> rfl

theorem tally_passTurn : (c.passTurn cell).1.tally = c.tally := by
  unfold passTurn
  split <;> rfl

theorem tally_enter : (c.enter id request app).tally = c.tally := by
  unfold enter cellFor
  cases c.inflight.find? (SignatureKey.ofRequest request app) <;> dsimp only <;> split <;> rfl

theorem tally_cancel : (c.cancel id).1.tally = c.tally := by
  unfold cancel
  cases c.calls.find? id with
  | none => rfl
  | some call =>
    dsimp only
    cases call.stage.cell? with
    | none => exact tally_release
    | some cell =>
      dsimp only
      cases c.cells.find? cell with
      | none => exact tally_release
      | some k =>
        dsimp only
        split
        · exact tally_release.trans tally_passTurn
        · exact tally_release

theorem tally_countHit : c.countHit.tally = (c.tally.1 + 1, c.tally.2) := rfl

theorem tally_countMiss : c.countMiss.tally = (c.tally.1, c.tally.2 + 1) := rfl

/-- A move is counted as its notes are. -/
theorem Noted.tally (noted : Noted d c event notes) (move : Move c event c')
    (enabled : c.config.enabled = true) (horderly : Orderly c) (h : c.tally = d.tally) :
    c'.tally = Diary.tally (d ++ notes) := by
  cases noted with
  | bypass new =>
    cases move with
    | bypass disabled absent => cases disabled.symm.trans enabled
  | leave id result =>
    cases move with
    | leave found stage => exact absurd stage (horderly.shared enabled found)
  | hit signed looks =>
    cases move with
    | hit _ meant =>
      rw [Diary.tally_snoc rfl, ← h]
      rfl
  | enter looks =>
    cases move with
    | enter _ absent => rw [List.append_nil, tally_enter, h]
  | adopt given =>
    cases move with
    | adopt found stage shared filled =>
      rw [Diary.tally_snoc rfl, ← h, tally_countHit, tally_release]
      rfl
  | found id signed =>
    cases move with
    | recheck seen found stage shared empty turn =>
      rw [Diary.tally_snoc rfl, ← h, recheck_some shared, tally_countHit, tally_release]
      rfl
  | start id =>
    cases move with
    | recheck seen found stage shared empty turn =>
      rw [Diary.tally_snoc rfl, ← h]
      rfl
  | keep id signed =>
    cases move with
    | keep signed found stage => rw [List.append_nil, tally_store, h]
  | fill id signed =>
    cases move with
    | fill signed found stage =>
      rw [Diary.tally_snoc rfl, ← h, tally_countMiss, tally_release, tally_fill]
      rfl
  | fail id e =>
    cases move with
    | fail e found stage =>
      rw [Diary.tally_snoc rfl, ← h, tally_release, tally_passTurn]
      rfl
  | cancel there =>
    cases move with
    | cancel =>
      rw [Diary.tally_snoc rfl, ← h, tally_cancel]
      rfl
  | evict key =>
    cases move with
    | evict => rw [List.append_nil, ← h]; rfl
  | clear =>
    cases move with
    | clear => rw [Diary.tally_cleared]; rfl
  | sweep =>
    cases move with
    | sweep => rw [List.append_nil, ← h]; rfl

theorem Served.tally (served : Served config d c) (enabled : config.enabled = true) :
    c.tally = d.tally := by
  induction served with
  | start => rfl
  | call served _ request app new ih =>
    rw [Diary.tally_snoc rfl, ← ih]
    rfl
  | move served move noted ih =>
    refine noted.tally move ?_ served.orderly ih
    rw [served.config_eq]
    exact enabled

/-! ## A disabled cache -/

/-- Every call computes for itself, past the cache. -/
structure Bypassed (d : Diary) (c : SignatureCache) : Prop where
  uncounted : c.tally = (0, 0)
  computers : d.computers = d.callers
  direct : ∀ id call, c.calls.find? id = some call → call.stage = .direct

theorem bypassed_new (config : SignatureCacheConfig) : Bypassed [] (new config) := ⟨rfl, rfl, nofun⟩

/-- Whoever is still there goes on past the cache. -/
theorem Bypassed.snoc (h : Bypassed d c) (computer : n.computer? = none) (caller : n.caller? = none)
    (tally : c'.tally = (0, 0))
    (calls : ∀ id call, c'.calls.find? id = some call → c.calls.find? id = some call) :
    Bypassed (d ++ [n]) c' where
  uncounted := tally
  computers := by
    have heq := h.computers
    unfold Diary.computers Diary.callers at heq ⊢
    simp only [List.filterMap_append, List.filterMap_cons, computer, caller, List.filterMap_nil, heq]
  direct id call hc := h.direct id call (calls id call hc)

theorem Bypassed.bypass (h : Bypassed d c) (id : CallId) (request : RelayRequest) (app : Application) :
    Bypassed (d ++ [.called id request app, .computes id])
      { c with calls := c.calls.insert id ⟨request, app, .direct⟩ } where
  uncounted := h.uncounted
  computers := by
    have heq := h.computers
    unfold Diary.computers Diary.callers at heq ⊢
    simp only [List.filterMap_append, heq]
    rfl
  direct := by
    intro id' call hc
    dsimp only at hc
    rw [Table.find?_insert] at hc
    split at hc
    · cases hc
      rfl
    · exact h.direct id' call hc

theorem Noted.bypassed (noted : Noted d c event notes) (move : Move c event c')
    (disabled : c.config.enabled = false) (h : Bypassed d c) : Bypassed (d ++ notes) c' := by
  cases move with
  | bypass _ absent =>
    cases noted with
    | bypass new => exact h.bypass _ _ _
  | leave found stage =>
    cases noted with
    | leave id result =>
      exact h.snoc rfl rfl (tally_release.trans h.uncounted) fun _ _ hc => (of_find?_calls_release hc).2
  | hit enabled meant => cases disabled.symm.trans enabled
  | enter enabled absent => cases disabled.symm.trans enabled
  | adopt found stage shared filled => cases stage.symm.trans (h.direct _ _ found)
  | recheck seen found stage shared empty turn => cases stage.symm.trans (h.direct _ _ found)
  | keep signed found stage => cases stage.symm.trans (h.direct _ _ found)
  | fill signed found stage => cases stage.symm.trans (h.direct _ _ found)
  | fail e found stage => cases stage.symm.trans (h.direct _ _ found)
  | cancel id =>
    cases noted with
    | cancel there =>
      refine h.snoc rfl rfl (tally_cancel.trans h.uncounted) ?_
      intro id' call hc
      rw [find?_calls_cancel] at hc
      split at hc
      · cases hc
      · exact hc
  | evict key =>
    cases noted with
    | evict =>
      rw [List.append_nil]
      exact ⟨h.uncounted, h.computers, h.direct⟩
  | clear =>
    cases noted with
    | clear => exact h.snoc rfl rfl rfl fun _ _ hc => hc
  | sweep =>
    cases noted with
    | sweep =>
      rw [List.append_nil]
      exact ⟨h.uncounted, h.computers, h.direct⟩

theorem Served.bypassed (served : Served config d c) (disabled : config.enabled = false) :
    Bypassed d c := by
  induction served with
  | start => exact bypassed_new config
  | call served enabled request app new ih =>
    rw [served.config_eq, disabled] at enabled
    cases enabled
  | move served move noted ih =>
    refine noted.bypassed move ?_ ih
    rw [served.config_eq]
    exact disabled

/-- However the calls interleave, each ends at most once. While the cache is enabled its misses are the
calls that have returned a signature of their own computation since the last clear, its hits are those
that have returned one without computing, and nobody else is counted. A disabled cache counts nothing, and
every call computes once. -/
theorem Served.counted (served : Served config d c) :
    (config.enabled = true →
      c.stats.misses = d.sinceClear.signers.length ∧ c.stats.hits = d.sinceClear.borrowers.length ∧
        c.stats.hits + c.stats.misses = d.sinceClear.answered.length) ∧
    (config.enabled = false → c.stats.misses = 0 ∧ c.stats.hits = 0 ∧ d.computers = d.callers) ∧
    d.callers.Nodup ∧ d.ended.Nodup ∧
    (∀ id ∈ d.signers, id ∈ d.computers) ∧ (∀ id ∈ d.borrowers, id ∉ d.computers) ∧
    ∀ n ∈ d, ∀ id, n.Fruitless id → id ∉ d.answered := by
  have hproper := served.fits.toProper
  refine ⟨?_, ?_, hproper.callers, hproper.ended, fun id hm => hproper.signers_sub hm,
    hproper.borrowers_idle, fun n hn id hfruitless => hproper.fruitless hn hfruitless⟩
  · intro enabled
    obtain ⟨hhits, hmisses⟩ := Prod.mk.inj (served.tally enabled)
    refine ⟨hmisses, hhits, ?_⟩
    rw [← Diary.length_answered, ← hhits, ← hmisses]
    rfl
  · intro disabled
    have h := served.bypassed disabled
    obtain ⟨hhits, hmisses⟩ := Prod.mk.inj h.uncounted
    exact ⟨hmisses, hhits, h.computers⟩

/-- Of two calls that share a computation, one is a miss and the other a hit. -/
theorem counted_sharing : ∃ d c, Served default d c ∧ (default : SignatureCacheConfig).enabled = true ∧
    d.answered = [0, 1] ∧ c.stats.misses = 1 ∧ c.stats.hits = 1 := by
  obtain ⟨c, served, hfirst, hsecond, hcell, -⟩ := served_waiting
  let signed : SignedRelay := ⟨default, [7]⟩
  let filled : SignatureCache :=
    setCell { c with entries :=
      c.entries.insert (⟨default, default, .computing 0⟩ : SignatureCall).key signed } 0
      ⟨some signed, none, []⟩
  have hretains : c.config.retains = true := by
    rw [served.config_eq]
    rfl
  have hfinish : c.finish 0 (.ok signed) = ⟨(filled.release 0).countMiss, .done (.ok signed), [1]⟩ :=
    finish_of_ok hretains hfirst rfl hcell
  have hwaiting : (filled.release 0).countMiss.calls.find? 1 = some ⟨default, default, .waiting 0⟩ := by
    show (filled.release 0).calls.find? 1 = _
    rw [find?_calls_release, if_neg (by decide)]
    exact hsecond
  have hfilled : (filled.release 0).countMiss.cells.find? 0 = some ⟨some signed, none, []⟩ := by
    show (filled.release 0).cells.find? 0 = _
    rw [find?_cells_release (c := filled) (by decide) hsecond rfl]
    exact Table.find?_insert_self ..
  have hgiven : ((filled.release 0).countMiss.resume 1).progress = .done (.ok signed) := by
    simp only [SignatureCache.resume, hwaiting, hfilled]
  have hcomputed := (served.finish hfirst rfl (.ok signed)).1
  rw [hfinish] at hcomputed
  have hshared := hcomputed.resume hwaiting rfl
  rw [hgiven] at hshared
  obtain ⟨hmisses, hhits, -⟩ := hshared.counted.1 rfl
  exact ⟨_, _, hshared, rfl, rfl, hmisses, hhits⟩

end RelayGateway.SignatureCache
