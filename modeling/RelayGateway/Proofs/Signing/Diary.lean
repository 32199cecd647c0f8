import RelayGateway.Proofs.Signing.Vouched

/-! # What becomes of every call

A diary notes of every call when it comes, when its own computation starts, and how it ends: with the
result of its own computation, with a signature that it did not compute, or dropped. It is kept move by
move, so calls may be overtaken wherever they wait. `Shift` says once what a move and its notes mean for
the calls; all that is known of diaries follows from it.
-/
namespace RelayGateway.SignatureCache

inductive Note where
  | called (id : CallId) (request : RelayRequest) (app : Application)
  | computes (id : CallId)
  /-- The call has returned the result of its own computation. -/
  | computed (id : CallId) (result : Except SignerError SignedRelay)
  /-- The call has returned a signature without a computation of its own. -/
  | reused (id : CallId) (signed : SignedRelay)
  | dropped (id : CallId)
  | cleared

namespace Note

def caller? : Note → Option CallId
  | called id _ _ => some id
  | _ => none

def computer? : Note → Option CallId
  | computes id => some id
  | _ => none

def ended? : Note → Option CallId
  | computed id _ => some id
  | reused id _ => some id
  | dropped id => some id
  | _ => none

def signer? : Note → Option CallId
  | computed id (.ok _) => some id
  | _ => none

def borrower? : Note → Option CallId
  | reused id _ => some id
  | _ => none

end Note

abbrev Diary := List Note

namespace Diary

def callers (d : Diary) : List CallId := d.filterMap Note.caller?

def computers (d : Diary) : List CallId := d.filterMap Note.computer?

def ended (d : Diary) : List CallId := d.filterMap Note.ended?

def signers (d : Diary) : List CallId := d.filterMap Note.signer?

def borrowers (d : Diary) : List CallId := d.filterMap Note.borrower?

def Open (d : Diary) (id : CallId) (request : RelayRequest) (app : Application) : Prop :=
  .called id request app ∈ d ∧ id ∉ d.ended

end Diary

variable {c c' : SignatureCache} {id id' : CallId} {call : SignatureCall} {cell : CellId}
variable {request request' : RelayRequest} {app app' : Application} {signed : SignedRelay}
variable {event : Event} {d notes later : Diary} {config : SignatureCacheConfig}
variable {result : Except SignerError SignedRelay}

def Diary.Looks (d : Diary) (c : SignatureCache) (id : CallId) (request : RelayRequest)
    (app : Application) : Prop :=
  d.Open id request app ∧ c.calls.find? id = none

inductive Noted (d : Diary) (c : SignatureCache) : Event → Diary → Prop where
  | bypass {id : CallId} {request : RelayRequest} {app : Application} (new : id ∉ d.callers) :
      Noted d c (.bypass id request app) [.called id request app, .computes id]
  | leave (id : CallId) (result : Except SignerError SignedRelay) :
      Noted d c (.leave id) [.computed id result]
  | hit {id : CallId} {request : RelayRequest} {app : Application} (signed : SignedRelay)
      (looks : d.Looks c id request app) : Noted d c (.hit request app signed) [.reused id signed]
  | enter {id : CallId} {request : RelayRequest} {app : Application} (looks : d.Looks c id request app) :
      Noted d c (.enter id request app) []
  | adopt {id : CallId} {signed : SignedRelay} (given : (c.resume id).progress = .done (.ok signed)) :
      Noted d c (.adopt id) [.reused id signed]
  | found (id : CallId) (signed : SignedRelay) : Noted d c (.recheck id (some signed)) [.reused id signed]
  | start (id : CallId) : Noted d c (.recheck id none) [.computes id]
  | keep (id : CallId) (signed : SignedRelay) : Noted d c (.keep id signed) []
  | fill (id : CallId) (signed : SignedRelay) : Noted d c (.fill id signed) [.computed id (.ok signed)]
  | fail (id : CallId) (e : SignerError) : Noted d c (.fail id e) [.computed id (.error e)]
  | cancel {id : CallId} {request : RelayRequest} {app : Application} (there : d.Open id request app) :
      Noted d c (.cancel id) [.dropped id]
  | evict (key : SignatureKey) : Noted d c (.evict key) []
  | clear : Noted d c .clear [.cleared]
  | sweep : Noted d c .sweep []

inductive Served (config : SignatureCacheConfig) : Diary → SignatureCache → Prop where
  | start : Served config [] (new config)
  /-- A call comes and begins to look into the store. -/
  | call {d : Diary} {c : SignatureCache} (served : Served config d c) (enabled : c.config.enabled = true)
      {id : CallId} (request : RelayRequest) (app : Application) (new : id ∉ d.callers) :
      Served config (d ++ [.called id request app]) c
  | move {d notes : Diary} {c c' : SignatureCache} {event : Event} (served : Served config d c)
      (move : Move c event c') (noted : Noted d c event notes) : Served config (d ++ notes) c'

/-- Not every move is noted. -/
theorem Served.silent (served : Served config d c) (move : Move c event c')
    (noted : Noted d c event []) : Served config d c' := by
  have hmoved := served.move move noted
  rwa [List.append_nil] at hmoved

theorem Served.run (served : Served config d c) : ∃ events, Run (new config) events c := by
  induction served with
  | start => exact ⟨[], .refl _⟩
  | call served enabled request app new ih => exact ih
  | move served move noted ih =>
    obtain ⟨events, hrun⟩ := ih
    exact ⟨_, .snoc hrun move⟩

theorem Served.orderly (served : Served config d c) : Orderly c := by
  obtain ⟨events, hrun⟩ := served.run
  exact hrun.orderly (orderly_new config)

theorem Served.config_eq (served : Served config d c) : c.config = config := by
  obtain ⟨events, hrun⟩ := served.run
  exact hrun.config

/-! ## What a move means for the calls -/

/-- What can become of the calls, with what is noted of it. -/
inductive Shift (d : Diary) (c c' : SignatureCache) : Diary → Prop where
  | none {notes : Diary} (silent : notes = [] ∨ notes = [.cleared]) (calls : c'.calls = c.calls) :
      Shift d c c' notes
  | calls {id : CallId} (request : RelayRequest) (app : Application) (new : id ∉ d.callers)
      (calls : c'.calls = c.calls) : Shift d c c' [.called id request app]
  | passes {id : CallId} {request : RelayRequest} {app : Application}
      (disabled : c.config.enabled = false) (new : id ∉ d.callers)
      (calls : ∀ id', c'.calls.find? id' =
        if id' = id then some ⟨request, app, .direct⟩ else c.calls.find? id') :
      Shift d c c' [.called id request app, .computes id]
  | enters {id : CallId} {request : RelayRequest} {app : Application} {cell : CellId}
      (looks : d.Looks c id request app)
      (calls : ∀ id', c'.calls.find? id' =
        if id' = id then some ⟨request, app, .waiting cell⟩ else c.calls.find? id') : Shift d c c' []
  | starts {id : CallId} {call : SignatureCall} {cell : CellId} (found : c.calls.find? id = some call)
      (stage : call.stage = .waiting cell)
      (calls : ∀ id', c'.calls.find? id' =
        if id' = id then some { call with stage := .computing cell } else c.calls.find? id') :
      Shift d c c' [.computes id]
  | computed {id : CallId} {call : SignatureCall} (found : c.calls.find? id = some call)
      (computing : isComputing call = true) (result : Except SignerError SignedRelay)
      (calls : ∀ id', c'.calls.find? id' = if id' = id then Option.none else c.calls.find? id') :
      Shift d c c' [.computed id result]
  | reused {id : CallId} (signed : SignedRelay)
      (idle : (∃ request app, d.Looks c id request app) ∨
        ∃ call, c.calls.find? id = some call ∧ isComputing call = false)
      (calls : ∀ id', c'.calls.find? id' = if id' = id then Option.none else c.calls.find? id') :
      Shift d c c' [.reused id signed]
  | dropped {id : CallId} {request : RelayRequest} {app : Application} (there : d.Open id request app)
      (calls : ∀ id', c'.calls.find? id' = if id' = id then Option.none else c.calls.find? id') :
      Shift d c c' [.dropped id]

/-- Whoever is not there does not leave. -/
theorem find?_of_none (h : c.calls.find? id = none) :
    c.calls.find? id' = if id' = id then none else c.calls.find? id' := by
  split
  · rename_i heq
    rw [heq, h]
  · rfl

theorem find?_calls_cancel : (c.cancel id).1.calls.find? id' =
    if id' = id then none else c.calls.find? id' := by
  unfold cancel
  cases hc : c.calls.find? id with
  | none => exact find?_of_none hc
  | some call =>
    dsimp only
    cases call.stage.cell? with
    | none => exact find?_calls_release
    | some cell =>
      dsimp only
      split
      · split
        · rw [find?_calls_release, calls_passTurn]
        · exact find?_calls_release
      · exact find?_calls_release

theorem Noted.shift (noted : Noted d c event notes) (move : Move c event c') : Shift d c c' notes := by
  cases noted with
  | bypass new =>
    cases move with
    | bypass disabled absent => exact .passes disabled new fun id' => Table.find?_insert ..
  | leave id result =>
    cases move with
    | @leave id call found stage =>
      exact .computed found (isComputing_of_direct stage) result fun id' => find?_calls_release
  | hit signed looks =>
    cases move with
    | hit enabled meant =>
      exact .reused signed (.inl ⟨_, _, looks⟩) fun id' => find?_of_none looks.2
  | enter looks =>
    cases move with
    | enter enabled absent => exact .enters looks fun id' => find?_calls_enter
  | adopt given =>
    cases move with
    | adopt found stage shared filled =>
      exact .reused _ (.inr ⟨_, found, not_isComputing_of_stage stage⟩) fun id' => find?_calls_release
  | found id signed =>
    cases move with
    | recheck seen found stage shared empty turn =>
      refine .reused signed (.inr ⟨_, found, not_isComputing_of_stage stage⟩) fun id' => ?_
      rw [recheck_some shared]
      exact find?_calls_release
  | start id =>
    cases move with
    | recheck seen found stage shared empty turn =>
      exact .starts found stage fun id' => Table.find?_insert ..
  | keep id signed =>
    cases move with
    | keep signed found stage => exact .none (.inl rfl) calls_store
  | fill id signed =>
    cases move with
    | fill signed found stage =>
      refine .computed found (isComputing_of_stage stage) _ fun id' => ?_
      show ((c.fill _ signed).1.release id).calls.find? id' = _
      rw [find?_calls_release, calls_fill]
  | fail id e =>
    cases move with
    | fail e found stage =>
      refine .computed found (isComputing_of_stage stage) _ fun id' => ?_
      rw [find?_calls_release, calls_passTurn]
  | cancel there =>
    cases move with
    | cancel => exact .dropped there fun id' => find?_calls_cancel
  | evict key =>
    cases move with
    | evict => exact .none (.inl rfl) rfl
  | clear =>
    cases move with
    | clear => exact .none (.inr rfl) rfl
  | sweep =>
    cases move with
    | sweep => exact .none (.inl rfl) rfl

/-! ## What is known of a diary -/

namespace Diary
variable {n : Note} {f : Note → Option CallId}

theorem mem_filterMap_snoc : id ∈ (d ++ [n]).filterMap f ↔ id ∈ d.filterMap f ∨ f n = some id := by
  rw [List.filterMap_append, List.mem_append, List.mem_filterMap (l := [n])]
  simp

theorem nodup_filterMap_snoc (h : (d.filterMap f).Nodup)
    (hn : ∀ id, f n = some id → id ∉ d.filterMap f) : ((d ++ [n]).filterMap f).Nodup := by
  rw [List.filterMap_append, List.filterMap_cons, List.filterMap_nil]
  cases hf : f n with
  | none => simpa using h
  | some id =>
    rw [List.nodup_append]
    refine ⟨h, by simp, ?_⟩
    rintro x hx y hy rfl
    exact hn id hf (List.mem_singleton.1 hy ▸ hx)

theorem borrowers_sub (d : Diary) : d.borrowers ⊆ d.ended := by
  intro id hm
  obtain ⟨n, hn, hid⟩ := List.mem_filterMap.1 hm
  refine List.mem_filterMap.2 ⟨n, hn, ?_⟩
  cases n with
  | reused => exact hid
  | _ => cases hid

theorem Open.mem_callers (h : d.Open id request app) : id ∈ d.callers :=
  List.mem_filterMap.2 ⟨_, h.1, rfl⟩

theorem open_snoc : (d ++ [n]).Open id request app ↔
    (.called id request app ∈ d ∨ n = .called id request app) ∧ id ∉ d.ended ∧ n.ended? ≠ some id := by
  rw [Open, List.mem_append, List.mem_singleton, ended, mem_filterMap_snoc, not_or, eq_comm]
  rfl

/-- Calls come once, compute at most once, and end at most once. -/
structure Proper (d : Diary) : Prop where
  callers : d.callers.Nodup
  computers : d.computers.Nodup
  ended : d.ended.Nodup
  computers_sub : d.computers ⊆ d.callers
  ended_sub : d.ended ⊆ d.callers
  /-- Who returns a signature of its own has computed. -/
  signers_sub : d.signers ⊆ d.computers
  /-- Who returns the signature of another has not. -/
  borrowers_idle : ∀ id ∈ d.borrowers, id ∉ d.computers

theorem proper_nil : Proper [] := ⟨.nil, .nil, .nil, nofun, nofun, nofun, nofun⟩

/-- What may be noted next. -/
theorem Proper.snoc (h : d.Proper) (hcaller : ∀ id, n.caller? = some id → id ∉ d.callers)
    (hcomputer : ∀ id, n.computer? = some id → id ∈ d.callers ∧ id ∉ d.computers ∧ id ∉ d.ended)
    (hended : ∀ id, n.ended? = some id → id ∈ d.callers ∧ id ∉ d.ended)
    (hsigner : ∀ id, n.signer? = some id → id ∈ d.computers)
    (hborrower : ∀ id, n.borrower? = some id → id ∉ d.computers) : Proper (d ++ [n]) where
  callers := nodup_filterMap_snoc h.callers hcaller
  computers := nodup_filterMap_snoc h.computers fun id hid => (hcomputer id hid).2.1
  ended := nodup_filterMap_snoc h.ended fun id hid => (hended id hid).2
  computers_sub := by
    intro id hm
    refine mem_filterMap_snoc.2 (.inl ?_)
    rcases mem_filterMap_snoc.1 hm with hm | hid
    · exact h.computers_sub hm
    · exact (hcomputer id hid).1
  ended_sub := by
    intro id hm
    refine mem_filterMap_snoc.2 (.inl ?_)
    rcases mem_filterMap_snoc.1 hm with hm | hid
    · exact h.ended_sub hm
    · exact (hended id hid).1
  signers_sub := by
    intro id hm
    refine mem_filterMap_snoc.2 (.inl ?_)
    rcases mem_filterMap_snoc.1 hm with hm | hid
    · exact h.signers_sub hm
    · exact hsigner id hid
  borrowers_idle := by
    intro id hm hcomputes
    rcases mem_filterMap_snoc.1 hm with hm | hid <;>
      rcases mem_filterMap_snoc.1 hcomputes with hcomputes | hid'
    · exact h.borrowers_idle id hm hcomputes
    · exact (hcomputer id hid').2.2 (d.borrowers_sub hm)
    · exact hborrower id hid hcomputes
    · cases n with
      | computes => cases hid
      | _ => cases hid'

theorem Proper.cleared (h : d.Proper) : Proper (d ++ [.cleared]) :=
  h.snoc nofun nofun nofun nofun nofun

theorem Proper.called (h : d.Proper) (request : RelayRequest) (app : Application) (new : id ∉ d.callers) :
    Proper (d ++ [.called id request app]) := by
  refine h.snoc ?_ nofun nofun nofun nofun
  rintro _ ⟨⟩
  exact new

theorem Proper.computes (h : d.Proper) (come : id ∈ d.callers) (idle : id ∉ d.computers)
    (there : id ∉ d.ended) : Proper (d ++ [.computes id]) := by
  refine h.snoc nofun ?_ nofun nofun nofun
  rintro _ ⟨⟩
  exact ⟨come, idle, there⟩

theorem Proper.computed (h : d.Proper) (come : id ∈ d.callers) (there : id ∉ d.ended)
    (computes : id ∈ d.computers) (result : Except SignerError SignedRelay) :
    Proper (d ++ [.computed id result]) := by
  refine h.snoc nofun nofun ?_ ?_ nofun
  · rintro _ ⟨⟩
    exact ⟨come, there⟩
  · intro id' hid
    cases result with
    | error e => cases hid
    | ok signed =>
      cases hid
      exact computes

theorem Proper.reused (h : d.Proper) (come : id ∈ d.callers) (there : id ∉ d.ended)
    (idle : id ∉ d.computers) (signed : SignedRelay) : Proper (d ++ [.reused id signed]) := by
  refine h.snoc nofun nofun ?_ nofun ?_
  · rintro _ ⟨⟩
    exact ⟨come, there⟩
  · rintro _ ⟨⟩
    exact idle

theorem Proper.dropped (h : d.Proper) (come : id ∈ d.callers) (there : id ∉ d.ended) :
    Proper (d ++ [.dropped id]) := by
  refine h.snoc nofun nofun ?_ nofun nofun
  rintro _ ⟨⟩
  exact ⟨come, there⟩

end Diary

/-- How the diary and the calls that are there fit together. -/
structure Fits (d : Diary) (c : SignatureCache) : Prop extends d.Proper where
  /-- Whoever is there is in progress. -/
  present : ∀ {id call}, c.calls.find? id = some call → d.Open id call.request call.app
  /-- Among the calls in progress those compute that are noted to compute. -/
  computing : ∀ {id request app}, d.Open id request app →
    (id ∈ d.computers ↔ ∃ call, c.calls.find? id = some call ∧ isComputing call = true)

theorem fits_new (config : SignatureCacheConfig) : Fits [] (new config) where
  toProper := Diary.proper_nil
  present h := nomatch h
  computing h := nomatch h.1

theorem Fits.absent (h : Fits d c) (new : id ∉ d.callers) : c.calls.find? id = none := by
  cases hc : c.calls.find? id with
  | none => rfl
  | some call => exact absurd (h.present hc).mem_callers new

/-- A call that has just come looks into the store. -/
theorem Fits.looks (h : Fits d c) (new : id ∉ d.callers) :
    Diary.Looks (d ++ [.called id request app]) c id request app :=
  ⟨Diary.open_snoc.2 ⟨.inr rfl, fun hm => new (h.ended_sub hm), nofun⟩, h.absent new⟩

/-- A call that comes looks into the store first. -/
theorem Fits.come (h : Fits d c) (request : RelayRequest) (app : Application) (new : id ∉ d.callers)
    (calls : c'.calls = c.calls) : Fits (d ++ [.called id request app]) c' where
  toProper := h.toProper.called request app new
  present := by
    intro id' call hc
    rw [calls] at hc
    have hopen := h.present hc
    exact Diary.open_snoc.2 ⟨.inl hopen.1, hopen.2, nofun⟩
  computing := by
    intro id' request' app' hopen
    obtain ⟨hcalled, hthere, -⟩ := Diary.open_snoc.1 hopen
    rw [calls, Diary.computers, Diary.mem_filterMap_snoc]
    rcases hcalled with hcalled | heq
    · rw [← h.computing ⟨hcalled, hthere⟩]
      exact or_iff_left nofun
    · cases heq
      rw [h.absent new]
      simp only [Note.computer?, reduceCtorEq, or_false, false_and, exists_false, iff_false]
      exact fun hm => new (h.computers_sub hm)

/-- A call that is there goes on, or comes in, and computes when that is noted. -/
theorem Fits.put (h : Fits d c) (proper : later.Proper)
    (calls : ∀ id', c'.calls.find? id' = if id' = id then some call else c.calls.find? id')
    (hself : later.Open id call.request call.app)
    (hcomputes : id ∈ later.computers ↔ isComputing call = true)
    (hothers : ∀ id' request app, id' ≠ id → (later.Open id' request app ↔ d.Open id' request app))
    (hcomputers : ∀ id', id' ≠ id → (id' ∈ later.computers ↔ id' ∈ d.computers)) : Fits later c' where
  toProper := proper
  present := by
    intro id' call' hc
    rw [calls] at hc
    split at hc
    · rename_i heq
      cases hc
      exact heq ▸ hself
    · exact (hothers _ _ _ ‹_›).2 (h.present hc)
  computing := by
    intro id' request app hopen
    rw [calls]
    split
    · rename_i heq
      rw [heq, hcomputes]
      simp
    · rw [hcomputers _ ‹_›]
      exact h.computing ((hothers _ _ _ ‹_›).1 hopen)

/-- The computation of a call in progress starts. -/
theorem Fits.compute (h : Fits d c) (hopen : d.Open id call.request call.app) (idle : id ∉ d.computers)
    (computing : isComputing call = true)
    (calls : ∀ id', c'.calls.find? id' = if id' = id then some call else c.calls.find? id') :
    Fits (d ++ [.computes id]) c' := by
  have hproper := h.toProper.computes hopen.mem_callers idle hopen.2
  refine h.put hproper calls (Diary.open_snoc.2 ⟨.inl hopen.1, hopen.2, nofun⟩) ?_ ?_ ?_
  · exact iff_of_true (Diary.mem_filterMap_snoc.2 (.inr rfl)) computing
  · intro id' request app hne
    rw [Diary.open_snoc]
    simp [Diary.Open, Note.ended?]
  · intro id' hne
    rw [Diary.computers, Diary.mem_filterMap_snoc]
    exact or_iff_left fun heq => hne (Option.some.inj heq).symm

/-- A call leaves, and that is noted. -/
theorem Fits.leave (h : Fits d c) {n : Note} (proper : Diary.Proper (d ++ [n]))
    (hended : n.ended? = some id)
    (calls : ∀ id', c'.calls.find? id' = if id' = id then none else c.calls.find? id') :
    Fits (d ++ [n]) c' where
  toProper := proper
  present := by
    intro id' call hc
    rw [calls] at hc
    split at hc
    · cases hc
    · have hopen := h.present hc
      refine Diary.open_snoc.2 ⟨.inl hopen.1, hopen.2, ?_⟩
      rw [hended]
      exact fun heq => ‹¬ id' = id› (Option.some.inj heq).symm
  computing := by
    intro id' request app hopen
    obtain ⟨hcalled, hthere, hne⟩ := Diary.open_snoc.1 hopen
    have hne' : id' ≠ id := fun heq => hne (heq ▸ hended)
    have hcalled : .called id' request app ∈ d := by
      refine hcalled.resolve_right ?_
      rintro rfl
      cases hended
    rw [calls, if_neg hne', ← h.computing ⟨hcalled, hthere⟩, Diary.computers, Diary.mem_filterMap_snoc]
    refine or_iff_left fun hcomputer => ?_
    cases n with
    | computes => cases hended
    | _ => cases hcomputer

theorem Fits.clear (h : Fits d c) (calls : c'.calls = c.calls) : Fits (d ++ [.cleared]) c' where
  toProper := h.toProper.cleared
  present := by
    intro id call hc
    rw [calls] at hc
    have hopen := h.present hc
    exact Diary.open_snoc.2 ⟨.inl hopen.1, hopen.2, nofun⟩
  computing := by
    intro id request app hopen
    obtain ⟨hcalled, hthere, -⟩ := Diary.open_snoc.1 hopen
    rw [calls, ← h.computing ⟨hcalled.resolve_right nofun, hthere⟩, Diary.computers,
      Diary.mem_filterMap_snoc]
    exact or_iff_left nofun

theorem Fits.shift (h : Fits d c) (shift : Shift d c c' notes) : Fits (d ++ notes) c' := by
  cases shift with
  | none silent calls =>
    rcases silent with rfl | rfl
    · rw [List.append_nil]
      refine ⟨h.toProper, ?_, ?_⟩
      · rw [calls]
        exact h.present
      · rw [calls]
        exact h.computing
    · exact h.clear calls
  | calls request app new calls => exact h.come request app new calls
  | @passes id request app disabled new calls =>
    have hcome := h.come request app new rfl
    have hlooks : Diary.Looks (d ++ [.called id request app]) c id request app := h.looks new
    rw [List.append_cons]
    refine hcome.compute hlooks.1 ?_ rfl calls
    rw [hcome.computing hlooks.1, hlooks.2]
    simp
  | enters looks calls =>
    rw [List.append_nil]
    refine h.put h.toProper calls looks.1 ?_ (fun _ _ _ _ => .rfl) fun _ _ => .rfl
    rw [h.computing looks.1, looks.2]
    simp [not_isComputing_of_stage]
  | @starts id call cell found stage calls =>
    have hopen : d.Open id call.request call.app := h.present found
    refine h.compute (by exact hopen) ?_ rfl calls
    rw [h.computing hopen, found]
    simp [not_isComputing_of_stage stage]
  | computed found computing result calls =>
    have hopen := h.present found
    have hcomputes := (h.computing hopen).2 ⟨_, found, computing⟩
    exact h.leave (h.toProper.computed hopen.mem_callers hopen.2 hcomputes result) rfl calls
  | @reused id signed idle calls =>
    obtain ⟨request, app, hopen, hidle⟩ : ∃ request app, d.Open id request app ∧ id ∉ d.computers := by
      rcases idle with ⟨request, app, hopen, habsent⟩ | ⟨call, found, hidle⟩
      · refine ⟨request, app, hopen, ?_⟩
        rw [h.computing hopen, habsent]
        simp
      · refine ⟨call.request, call.app, h.present found, ?_⟩
        rw [h.computing (h.present found), found]
        simp [hidle]
    exact h.leave (h.toProper.reused hopen.mem_callers hopen.2 hidle signed) rfl calls
  | dropped there calls => exact h.leave (h.toProper.dropped there.mem_callers there.2) rfl calls

theorem Served.fits (served : Served config d c) : Fits d c := by
  induction served with
  | start => exact fits_new config
  | call served enabled request app new ih => exact ih.come request app new rfl
  | move served move noted ih => exact ih.shift (noted.shift move)

end RelayGateway.SignatureCache
