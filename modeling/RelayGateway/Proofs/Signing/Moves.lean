import RelayGateway.Signing.Cache

/-! # Moves of the signature cache

A call may be suspended, and others run, wherever it waits: for the store, for its cell, for its own
computation. A move is what one call does between two such points, or what happens to the cache from
outside. The store drops entries when it likes and answers when it likes, so what a call sees in it is
not tied to what it holds at that moment.
-/
namespace RelayGateway.SignatureCache
variable {c c' c'' : SignatureCache} {id : CallId} {key : SignatureKey} {signed : SignedRelay}

inductive Event where
  /-- A call starts its computation past a disabled cache. -/
  | bypass (id : CallId) (request : RelayRequest) (app : Application)
  /-- A computation past a disabled cache has ended. -/
  | leave (id : CallId)
  /-- A call is answered with a stored signature for its data. -/
  | hit (request : RelayRequest) (app : Application) (signed : SignedRelay)
  /-- A call that has seen nothing of use in the store joins the cell of its key. -/
  | enter (id : CallId) (request : RelayRequest) (app : Application)
  /-- A call takes the signature that its cell has been filled with. -/
  | adopt (id : CallId)
  /-- The call whose turn it is has looked into the store again. -/
  | recheck (id : CallId) (seen : Option SignedRelay)
  /-- A computation has succeeded; its signature goes to the store. -/
  | keep (id : CallId) (signed : SignedRelay)
  /-- A call fills its cell with what it has computed. -/
  | fill (id : CallId) (signed : SignedRelay)
  /-- A computation has failed. -/
  | fail (id : CallId) (e : SignerError)
  | cancel (id : CallId)
  /-- A signature leaves the store. -/
  | evict (key : SignatureKey)
  | clear
  | sweep

inductive Move (c : SignatureCache) : Event → SignatureCache → Prop where
  | bypass {id : CallId} {request : RelayRequest} {app : Application}
      (disabled : c.config.enabled = false) (new : c.calls.find? id = none) :
      Move c (.bypass id request app) { c with calls := c.calls.insert id ⟨request, app, .direct⟩ }
  | leave {id : CallId} {call : SignatureCall} (found : c.calls.find? id = some call)
      (stage : call.stage = .direct) : Move c (.leave id) (c.release id)
  | hit {request : RelayRequest} {app : Application} {signed : SignedRelay}
      (enabled : c.config.enabled = true)
      (meant : signed.isFor request.header.sessionId request.supplier app.address = true) :
      Move c (.hit request app signed) c.countHit
  | enter {id : CallId} {request : RelayRequest} {app : Application}
      (enabled : c.config.enabled = true) (new : c.calls.find? id = none) :
      Move c (.enter id request app) (c.enter id request app)
  | adopt {id : CallId} {call : SignatureCall} {cell : CellId} {k : Cell} {signed : SignedRelay}
      (found : c.calls.find? id = some call) (stage : call.stage = .waiting cell)
      (shared : c.cells.find? cell = some k) (filled : k.value = some signed) :
      Move c (.adopt id) (c.release id).countHit
  | recheck {id : CallId} {call : SignatureCall} {cell : CellId} {k : Cell}
      (seen : Option SignedRelay) (found : c.calls.find? id = some call)
      (stage : call.stage = .waiting cell) (shared : c.cells.find? cell = some k)
      (empty : k.value = none) (turn : k.turn = some id) :
      Move c (.recheck id seen) (c.recheck id call cell seen).cache
  | keep {id : CallId} {call : SignatureCall} {cell : CellId} (signed : SignedRelay)
      (found : c.calls.find? id = some call) (stage : call.stage = .computing cell) :
      Move c (.keep id signed) (c.store call.key signed)
  | fill {id : CallId} {call : SignatureCall} {cell : CellId} (signed : SignedRelay)
      (found : c.calls.find? id = some call) (stage : call.stage = .computing cell) :
      Move c (.fill id signed) ((c.fill cell signed).1.release id).countMiss
  | fail {id : CallId} {call : SignatureCall} {cell : CellId} (e : SignerError)
      (found : c.calls.find? id = some call) (stage : call.stage = .computing cell) :
      Move c (.fail id e) ((c.passTurn cell).1.release id)
  | cancel (id : CallId) : Move c (.cancel id) (c.cancel id).1
  | evict (key : SignatureKey) : Move c (.evict key) (c.evict key)
  | clear : Move c .clear c.clear
  | sweep : Move c .sweep c.sweep

inductive Run : SignatureCache → List Event → SignatureCache → Prop where
  | refl (c : SignatureCache) : Run c [] c
  | snoc {c c' c'' : SignatureCache} {events : List Event} {event : Event}
      (run : Run c events c') (move : Move c' event c'') : Run c (events ++ [event]) c''

theorem Run.single {event : Event} (h : Move c event c') : Run c [event] c' :=
  .snoc (.refl c) h

theorem Run.trans {events later : List Event} (h : Run c events c') (h' : Run c' later c'') :
    Run c (events ++ later) c'' := by
  induction h' with
  | refl => simpa using h
  | snoc _ move ih => simpa using Run.snoc ih move

/-! ## The steps of a call

What a call does between two suspensions is one move or several, so what holds of every run of moves
holds of every sequence of steps.
-/

theorem calls_store : (c.store key signed).calls = c.calls := by
  unfold store
  split <;> rfl

inductive Resumed (c : SignatureCache) (id : CallId) : Step → Prop where
  | stays {progress : Progress} (pending : ∀ result, progress ≠ .done result) :
      Resumed c id ⟨c, progress, []⟩
  | adopts {call : SignatureCall} {cell : CellId} {k : Cell} {signed : SignedRelay}
      (found : c.calls.find? id = some call) (stage : call.stage = .waiting cell)
      (shared : c.cells.find? cell = some k) (filled : k.value = some signed) :
      Resumed c id ⟨(c.release id).countHit, .done (.ok signed), []⟩
  | rechecks {call : SignatureCall} {cell : CellId} {k : Cell}
      (found : c.calls.find? id = some call) (stage : call.stage = .waiting cell)
      (shared : c.cells.find? cell = some k) (empty : k.value = none) (turn : k.turn = some id) :
      Resumed c id (c.takeTurn id call cell)

theorem resumed (c : SignatureCache) (id : CallId) : Resumed c id (c.resume id) := by
  unfold resume
  cases hc : c.calls.find? id with
  | none => exact .stays nofun
  | some call =>
    dsimp only
    cases hs : call.stage with
    | computing cell => exact .stays nofun
    | direct => exact .stays nofun
    | waiting cell =>
      dsimp only
      cases hk : c.cells.find? cell with
      | none => exact .stays nofun
      | some k =>
        obtain ⟨value, turn, queue⟩ := k
        cases value with
        | some signed => exact .adopts hc hs hk rfl
        | none =>
          dsimp only
          split
          · rename_i ht
            exact .rechecks hc hs hk rfl ht
          · exact .stays nofun

theorem resume_run (c : SignatureCache) (id : CallId) : ∃ events, Run c events (c.resume id).cache := by
  have h := resumed c id
  generalize c.resume id = step at h ⊢
  cases h with
  | stays pending => exact ⟨[], .refl c⟩
  | adopts found stage shared filled => exact ⟨[.adopt id], .single (.adopt found stage shared filled)⟩
  | rechecks found stage shared empty turn =>
    exact ⟨_, .single (.recheck _ found stage shared empty turn)⟩

theorem join_run (henabled : c.config.enabled = true) (hnew : c.calls.find? id = none)
    (request : RelayRequest) (app : Application) :
    ∃ events, Run c events (c.join id request app).cache := by
  obtain ⟨events, hrun⟩ := resume_run (c.enter id request app) id
  exact ⟨_, (Run.single (.enter henabled hnew)).trans hrun⟩

theorem begin_run (hnew : c.calls.find? id = none) (request : RelayRequest) (app : Application) :
    ∃ events, Run c events (c.begin id request app).cache := by
  unfold begin
  split
  · rename_i henabled
    dsimp only
    split
    · split
      · rename_i hmeant
        exact ⟨[.hit request app _], .single (.hit henabled hmeant)⟩
      · obtain ⟨events, hrun⟩ := join_run (c := c.evict (SignatureKey.ofRequest request app))
          henabled hnew request app
        exact ⟨_, (Run.single (.evict _)).trans hrun⟩
    · exact join_run henabled hnew request app
  · rename_i hdisabled
    exact ⟨[.bypass id request app], .single (.bypass (Bool.eq_false_iff.2 hdisabled) hnew)⟩

theorem finish_run (c : SignatureCache) (id : CallId) (result : Except SignerError SignedRelay) :
    ∃ events, Run c events (c.finish id result).cache := by
  unfold finish
  cases hc : c.calls.find? id with
  | none => exact ⟨[], .refl c⟩
  | some call =>
    dsimp only
    cases hs : call.stage with
    | waiting cell => exact ⟨[], .refl c⟩
    | direct => exact ⟨[.leave id], .single (.leave hc hs)⟩
    | computing cell =>
      cases result with
      | error e => exact ⟨[.fail id e], .single (.fail e hc hs)⟩
      | ok signed =>
        have hkept : (c.store call.key signed).calls.find? id = some call := by
          rw [calls_store, hc]
        exact ⟨_, (Run.single (.keep signed hc hs)).trans (.single (.fill signed hkept hs))⟩

end RelayGateway.SignatureCache
