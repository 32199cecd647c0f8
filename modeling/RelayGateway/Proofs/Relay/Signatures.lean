import RelayGateway.Proofs.Relay.Conversation
import RelayGateway.Proofs.Relay.Relaying
import RelayGateway.Proofs.Schedule
import RelayGateway.Proofs.Signing.Vouched

/-! # What is posted has been signed

Whatever signature an attempt goes on with, from the cache or from the signer, the signer has given it by
then, asked for a request with the same key. That is so of the whole cache, whichever attempts have filled
it, and each move keeps it so.
-/
namespace RelayGateway
variable {ω : Type} {xs ys : List Exchange} {now now' : Nat} {key : SignatureKey} {signed : SignedRelay}

/-- By `now` the signer has given `signed`, having been asked for a request with that key. -/
def Given (xs : List Exchange) (now : Nat) (key : SignatureKey) (signed : SignedRelay) : Prop :=
  ∃ asked request app answer, Exchange.sign asked request app answer ∈ xs ∧
    SignatureKey.ofRequest request app = key ∧ answer.ready? now = some (.ok signed)

theorem Given.mono (h : Given xs now key signed) (hsub : xs ⊆ ys) (hle : now ≤ now') :
    Given ys now' key signed := by
  obtain ⟨asked, request, app, answer, hmem, hkey, hready⟩ := h
  exact ⟨asked, request, app, answer, hsub hmem, hkey, Pending.ready?_mono hready hle⟩

namespace Attempt
variable {a : Attempt} {body : Bytes} {x : Exchange}

/-- At a protocol endpoint the body is a signed relay that the signer has given for the request. -/
def Carries (a : Attempt) (xs : List Exchange) (now : Nat) (body : Bytes) : Prop :=
  a.endpoint.isFallback = false → ∃ request app signed, a.request? = .ok (request, app) ∧
    body = signed.encode ∧ Given xs now (SignatureKey.ofRequest request app) signed

theorem Carries.mono (h : a.Carries xs now body) (hsub : xs ⊆ ys) (hle : now ≤ now') :
    a.Carries ys now' body := by
  intro protocol
  obtain ⟨request, app, signed, good, hbody, given⟩ := h protocol
  exact ⟨request, app, signed, good, hbody, given.mono hsub hle⟩

def Owns (a : Attempt) (xs : List Exchange) : Exchange → Prop
  | .sign _ request app _ => a.request? = .ok (request, app)
  | .post posted url body _ _ => url = a.url ∧ a.Carries xs posted body
  | .validate _ supplier _ _ => supplier = a.endpoint.supplier

theorem Owns.mono (h : a.Owns xs x) (hsub : xs ⊆ ys) : a.Owns ys x := by
  cases x with
  | sign asked request app answer => exact h
  | post posted url body timeout reply => exact ⟨h.1, h.2.mono hsub (Nat.le_refl _)⟩
  | validate asked supplier bytes verdict => exact h

end Attempt

/-! ## Moves -/

structure Relays.Sound (now : Nat) (r : Relays (Ledger ω)) : Prop where
  orderly : r.signatures.Orderly
  vouched : r.signatures.Vouched (Given r.outside.exchanges now)

theorem Relays.Sound.mono {r : Relays (Ledger ω)} (h : r.Sound now) (hle : now ≤ now') : r.Sound now' where
  orderly := h.orderly
  vouched := h.vouched.mono fun given => given.mono (fun _ hx => hx) hle

/-- What is known in each phase: that the call in the cache is for the request of the attempt, that its
signer has been asked, or that a body is at hand. -/
def Phase.Backed (a : Attempt) (now : Nat) (id : ProcessId) (r : Relays (Ledger ω)) : Phase → Prop
  | .looked (.done (.ok signed)) => a.Carries r.outside.exchanges now signed.encode
  | .at (.queueing body) => a.Carries r.outside.exchanges now body
  | .looked .wait | .looked .compute | .at .sharing =>
    ∀ request app, r.signatures.Asks id request app → a.request? = .ok (request, app)
  | .at (.signing answer) =>
    (∀ request app, r.signatures.Asks id request app → a.request? = .ok (request, app)) ∧
      ∃ asked request app, a.request? = .ok (request, app) ∧
        Exchange.sign asked request app answer ∈ r.outside.exchanges
  | _ => True

theorem Phase.Backed.mono {a : Attempt} {id : ProcessId} {r r' : Relays (Ledger ω)} {p : Phase}
    (h : p.Backed a now id r) (hsub : r.outside.exchanges ⊆ r'.outside.exchanges) (hle : now ≤ now')
    (hasks : ∀ request app, r'.signatures.Asks id request app → r.signatures.Asks id request app) :
    p.Backed a now' id r' := by
  cases p with
  | fresh => trivial
  | ended result => trivial
  | looked progress =>
    cases progress with
    | wait => exact fun request app hr => h request app (hasks request app hr)
    | compute => exact fun request app hr => h request app (hasks request app hr)
    | done result =>
      cases result with
      | ok signed => exact Attempt.Carries.mono h hsub hle
      | error e => trivial
  | «at» stage =>
    cases stage with
    | sharing => exact fun request app hr => h request app (hasks request app hr)
    | signing answer =>
      obtain ⟨hown, asked, request, app, good, hmem⟩ := h
      exact ⟨fun request app hr => hown request app (hasks request app hr), asked, request, app, good,
        hsub hmem⟩
    | queueing body => exact Attempt.Carries.mono h hsub hle
    | posting reply => trivial
    | validating verdict => trivial

namespace Attempt
variable {a : Attempt} {id : ProcessId} {b r r' : Relays (Ledger ω)} {p p' : Phase}

structure Backed (a : Attempt) (now : Nat) (id : ProcessId) (b r : Relays (Ledger ω)) (p : Phase) :
    Prop where
  sound : r.Sound now
  grows : b.Grows r
  others : ∀ id', id' ≠ id → ∀ request app, r.signatures.Asks id' request app →
    b.signatures.Asks id' request app
  phase : p.Backed a now id r
  made : ∀ x ∈ b.since r, a.Owns r.outside.exchanges x

theorem Backed.fresh (sound : r.Sound now) : a.Backed now id r r .fresh where
  sound := sound
  grows := .rfl
  others _ _ _ _ h := h
  phase := trivial
  made := by
    intro x hx
    rw [Relays.since_of_eq rfl] at hx
    cases hx

/-- A move that makes the exchanges `ys`. -/
theorem Backed.step (h : a.Backed now id b r p)
    (hgrown : r'.outside.exchanges = r.outside.exchanges ++ ys) (horderly : r'.signatures.Orderly)
    (hvouched : r'.signatures.Vouched (Given r.outside.exchanges now))
    (hothers : ∀ id', id' ≠ id → ∀ request app, r'.signatures.Asks id' request app →
      r.signatures.Asks id' request app)
    (hmade : ∀ y ∈ ys, a.Owns r'.outside.exchanges y) (hphase : p'.Backed a now id r') :
    a.Backed now id b r' p' where
  sound := ⟨horderly, hvouched.mono fun given =>
    given.mono (hgrown ▸ List.subset_append_left _ _) (Nat.le_refl _)⟩
  grows := h.grows.trans (.append hgrown)
  others id' hne request app hasks := h.others id' hne request app (hothers id' hne request app hasks)
  phase := hphase
  made := by
    intro x hx
    rw [Relays.since_append h.grows hgrown] at hx
    rcases List.mem_append.1 hx with hx | hx
    · exact (h.made x hx).mono (hgrown ▸ List.subset_append_left _ _)
    · exact hmade x hx

theorem Backed.exchange (h : a.Backed now id b r p) (hsignatures : r'.signatures = r.signatures)
    (hgrown : r'.outside.exchanges = r.outside.exchanges ++ ys)
    (hmade : ∀ y ∈ ys, a.Owns r'.outside.exchanges y) (hphase : p'.Backed a now id r') :
    a.Backed now id b r' p' :=
  h.step hgrown (hsignatures ▸ h.sound.orderly) (hsignatures ▸ h.sound.vouched)
    (fun _ _ _ _ hasks => hsignatures ▸ hasks) hmade hphase

/-- A move past the cache and past the collaborators. -/
theorem Backed.silent (h : a.Backed now id b r p) (hsignatures : r'.signatures = r.signatures)
    (houtside : r'.outside = r.outside) (hphase : p'.Backed a now id r') : a.Backed now id b r' p' :=
  have hgrown : r'.outside.exchanges = r.outside.exchanges ++ [] := by rw [houtside, List.append_nil]
  h.exchange hsignatures hgrown (fun y hy => by cases hy) hphase

theorem Backed.cache (h : a.Backed now id b r p) (houtside : r'.outside = r.outside)
    (horderly : r'.signatures.Orderly)
    (hvouched : r'.signatures.Vouched (Given r.outside.exchanges now))
    (hothers : ∀ id', id' ≠ id → ∀ request app, r'.signatures.Asks id' request app →
      r.signatures.Asks id' request app)
    (hphase : p'.Backed a now id r') : a.Backed now id b r' p' :=
  have hgrown : r'.outside.exchanges = r.outside.exchanges ++ [] := by rw [houtside, List.append_nil]
  h.step hgrown horderly hvouched hothers (fun y hy => by cases hy) hphase

theorem carries_of_done {signed : SignedRelay} {request : RelayRequest} {app : Application}
    (good : a.request? = .ok (request, app)) (given : Given xs now (.ofRequest request app) signed) :
    a.Carries xs now signed.encode :=
  fun _ => ⟨request, app, signed, good, rfl, given⟩

theorem Backed.drop {stage : AttemptStage} {result : Except RelayError RelayResponse}
    (h : a.Backed now id b r p) : a.Backed now id b (drop id r stage) (.ended result) := by
  have hcancel : a.Backed now id b (r.cancelSignature id) (.ended result) :=
    h.cache rfl (h.sound.orderly.cancel id) (h.sound.vouched.cancel h.sound.orderly id)
      (fun _ _ _ _ => .of_cancel) trivial
  cases stage with
  | signing answer => exact hcancel
  | sharing => exact hcancel
  | queueing body => exact h.silent rfl rfl trivial
  | posting reply => exact h.silent rfl rfl trivial
  | validating verdict => exact h.silent rfl rfl trivial

variable [Collaborators ω]

theorem Move.backed (move : a.Move now id (r, p) (r', p')) (h : a.Backed now id b r p) :
    a.Backed now id b r' p' := by
  cases move with
  | enter fallback => exact h.silent rfl rfl fun protocol => by cases fallback.symm.trans protocol
  | refuse early bad => exact h.silent rfl rfl trivial
  | @begin _ request app protocol good =>
    refine h.cache rfl (h.sound.orderly.begin id request app)
      (h.sound.vouched.begin h.sound.orderly id request app) (fun id' hne _ _ => .of_begin hne) ?_
    generalize hprogress : (r.signatures.begin id request app).progress = progress
    cases progress with
    | done result =>
      obtain ⟨signed, rfl, given⟩ := h.sound.vouched.begin_done hprogress
      exact carries_of_done good given
    | wait =>
      intro request' app' hasks
      obtain ⟨rfl, rfl⟩ := SignatureCache.Asks.of_begin_self (by rw [hprogress]; nofun) hasks
      exact good
    | compute =>
      intro request' app' hasks
      obtain ⟨rfl, rfl⟩ := SignatureCache.Asks.of_begin_self (by rw [hprogress]; nofun) hasks
      exact good
  | @resume _ request app good =>
    refine h.cache rfl ?_ (h.sound.vouched.resume h.sound.orderly id) (fun _ _ _ _ => .of_resume) ?_
    · obtain ⟨events, hrun⟩ := SignatureCache.resume_run r.signatures id
      exact hrun.orderly h.sound.orderly
    · generalize hprogress : (r.signatures.resume id).progress = progress
      cases progress with
      | done result =>
        obtain ⟨call, signed, found, rfl, given⟩ := h.sound.vouched.resume_done hprogress
        exact carries_of_done (h.phase call.request call.app ⟨call, found, rfl, rfl⟩) given
      | wait => exact fun request' app' hasks => h.phase request' app' (.of_resume hasks)
      | compute => exact fun request' app' hasks => h.phase request' app' (.of_resume hasks)
  | share => exact h.silent rfl rfl h.phase
  | @sign _ request app good =>
    refine h.exchange rfl rfl ?_ ⟨h.phase, now, request, app, good, ?_⟩
    · exact fun y hy => List.mem_singleton.1 hy ▸ good
    · exact List.mem_append_right _ (List.mem_singleton_self _)
  | @signed _ answer result ready =>
    obtain ⟨hown, asked, request, app, good, hmem⟩ := h.phase
    refine h.cache rfl ?_ (h.sound.vouched.finish h.sound.orderly ?_) (fun _ _ _ _ => .of_finish) ?_
    · obtain ⟨events, hrun⟩ := SignatureCache.finish_run r.signatures id result
      exact hrun.orderly h.sound.orderly
    -- The call in the cache is for the request that was signed, so it is known there by the same key.
    · rintro call signed found rfl
      obtain ⟨rfl, rfl⟩ := Prod.mk.inj (Except.ok.inj
        (good.symm.trans (hown call.request call.app ⟨call, found, rfl, rfl⟩)))
      exact ⟨asked, call.request, call.app, answer, hmem, rfl, ready⟩
    · cases result with
      | ok signed => exact carries_of_done good ⟨asked, request, app, answer, hmem, rfl, ready⟩
      | error e => trivial
  | unsigned => exact h.silent rfl rfl trivial
  | queue => exact h.silent rfl rfl h.phase
  | @post _ body holds =>
    refine h.exchange rfl rfl ?_ trivial
    intro y hy
    rw [List.mem_singleton.1 hy]
    exact ⟨rfl, Carries.mono h.phase (List.subset_append_left _ _) (Nat.le_refl _)⟩
  | unposted ready => exact h.silent rfl rfl trivial
  | accept fallback ready => exact h.silent rfl rfl trivial
  | validate protocol ready =>
    exact h.exchange rfl rfl (fun y hy => List.mem_singleton.1 hy ▸ rfl) trivial
  | invalid ready => exact h.silent rfl rfl trivial
  | valid ready => exact h.silent rfl rfl trivial
  | lapse due unready => exact h.drop

theorem Turned.backed {s : Relays (Ledger ω) × AttemptProgress} (h : a.Turned now id (r, p) s)
    (backed : a.Backed now id r r p) : a.Backed now id r s.1 s.2.phase :=
  h.keeps (fun r' p' => a.Backed now id r r' p') Move.backed backed

end Attempt

/-! ## Turns of a dispatch -/

def Leg.Owned (xs : List Exchange) (leg : Leg ω) : Prop := ∀ x ∈ leg.exchanges, leg.attempt.Owns xs x

theorem Leg.Owned.mono {leg : Leg ω} (h : leg.Owned xs) (hsub : xs ⊆ ys) : leg.Owned ys :=
  fun x hx => (h x hx).mono hsub

namespace Delivery
variable {now : Nat} {id : ProcessId} {b r : Relays (Ledger ω)} {legs : List (Leg ω)}
variable {standing : Standing Dispatch}

structure Leaves (now : Nat) (id : ProcessId) (b r : Relays (Ledger ω)) (legs : List (Leg ω))
    (standing : Standing Dispatch) : Prop where
  sound : r.Sound now
  grows : b.Grows r
  others : ∀ id', id' ≠ id → ∀ request app, r.signatures.Asks id' request app →
    b.signatures.Asks id' request app
  stage : ∀ d, standing = .running d → (Phase.at d.stage).Backed d.attempt now id r
  owned : ∀ leg ∈ legs, leg.Owned r.outside.exchanges
  accounted : ∀ x ∈ b.since r, ∃ leg ∈ legs, x ∈ leg.exchanges

variable [Collaborators ω] {leg : Leg ω} {retry : Option Endpoint} {payload : RelayPayload} {deadline : Nat}
variable {s : Relays (Ledger ω) × AttemptProgress} {progress : DispatchProgress}

theorem leaves_of_goes (backed : leg.attempt.Backed now id b s.1 s.2.phase)
    (owned : leg.Owned s.1.outside.exchanges) (accounted : ∀ x ∈ b.since s.1, x ∈ leg.exchanges)
    (goes : Leg.Goes now id payload deadline leg retry s legs r progress) :
    Leaves now id b r legs (progress.standing now) := by
  cases goes with
  | @on retry r progress last =>
    refine ⟨backed.sound, backed.grows, backed.others, ?_, ?_, ?_⟩
    · intro d hd
      cases progress with
      | waiting stage =>
        cases hd
        exact backed.phase
      | done result => cases hd
    · exact fun leg' hleg => List.mem_singleton.1 hleg ▸ owned
    · exact fun x hx => ⟨leg, List.mem_singleton_self _, accounted x hx⟩
  | @further fallback r e a attempt =>
    have hbacked := (a.start_turned now id r).backed (.fresh backed.sound)
    have hmono := hbacked.grows.subset
    have hexchanges := Leg.exchanges_start a now id r
    refine ⟨hbacked.sound, backed.grows.trans hbacked.grows, ?_, ?_, ?_, ?_⟩
    · exact fun id' hne request app hasks =>
        backed.others id' hne request app (hbacked.others id' hne request app hasks)
    · intro d hd
      have hphase := hbacked.phase
      generalize a.start now id r = s at hd hphase
      obtain ⟨r', progress⟩ := s
      cases progress with
      | waiting stage =>
        cases hd
        exact hphase
      | done result => cases hd
    · intro leg' hleg
      rcases List.mem_cons.1 hleg with rfl | hleg
      · intro x hx
        exact hbacked.made x (hexchanges ▸ hx)
      · rw [List.mem_singleton.1 hleg]
        exact owned.mono hmono
    · intro x hx
      rw [Relays.since_trans backed.grows hbacked.grows] at hx
      rcases List.mem_append.1 hx with hx | hx
      · exact ⟨leg, List.mem_cons_of_mem _ (List.mem_singleton_self _), accounted x hx⟩
      · exact ⟨_, List.mem_cons_self, hexchanges ▸ hx⟩

theorem begin_leaves (sound : r.Sound now) (config : RelayConfig) (id : ProcessId)
    (payload : RelayPayload) (c : RequestContext) :
    Leaves now id r (begin config now id payload c r).2 (begin config now id payload c r).1.legs
      (begin config now id payload c r).1.standing := by
  unfold begin Dispatch.begin
  cases c.dispatchable with
  | error e =>
    refine ⟨sound, .rfl, fun _ _ _ _ hasks => hasks, ?_, ?_, ?_⟩
    · intro d hd
      cases hd
    · intro leg hleg
      cases hleg
    · intro x hx
      rw [Relays.since_of_eq rfl] at hx
      cases hx
  | ok endpoint =>
    have hbacked := ((Dispatch.first config now payload c endpoint).1.start_turned now id r).backed
      (.fresh sound)
    have hexchanges := Leg.exchanges_start (Dispatch.first config now payload c endpoint).1 now id r
    refine leaves_of_goes hbacked ?_ ?_ (Leg.goes now id payload _ _ _ _ _)
    · exact fun x hx => hbacked.made x (hexchanges ▸ hx)
    · exact fun x hx => hexchanges ▸ hx

theorem mem_of_goes (goes : Leg.Goes now id payload deadline leg retry s legs r progress) : leg ∈ legs := by
  cases goes with
  | on last => exact List.mem_singleton_self _
  | further attempt => exact List.mem_cons_of_mem _ (List.mem_singleton_self _)

theorem resume_leaves {x : Delivery ω} {d : Dispatch} {earlier : List (Leg ω)} (sound : r.Sound now)
    (backed : (Phase.at d.stage).Backed d.attempt now id r) (legs : x.legs = leg :: earlier)
    (attempt : leg.attempt = d.attempt) (owned : leg.Owned r.outside.exchanges) :
    ∃ newer, (x.resume d now id r).1.legs = newer ++ earlier ∧
      leg.resume now id r d.stage ∈ newer ∧
      Leaves now id r (x.resume d now id r).2 newer (x.resume d now id r).1.standing := by
  obtain ⟨payload, deadline, a, stage, retry⟩ := d
  dsimp only at backed attempt
  subst attempt
  have hstart : leg.attempt.Backed now id r r (.at stage) :=
    { Attempt.Backed.fresh (a := leg.attempt) sound with phase := backed }
  have hbacked : (leg.resume now id r stage).attempt.Backed now id r _ _ :=
    (leg.attempt.resume_turned now id r stage).backed hstart
  have hexchanges := Leg.exchanges_resume leg now id r stage
  have hgoes := Leg.goes now id payload deadline (leg.resume now id r stage) retry x.context
    (leg.attempt.resume now id r stage)
  refine ⟨_, legs_resume legs now id r, mem_of_goes hgoes, leaves_of_goes hbacked ?_ ?_ hgoes⟩
  · intro y hy
    rw [hexchanges] at hy
    rcases List.mem_append.1 hy with hy | hy
    · exact (owned y hy).mono hbacked.grows.subset
    · exact hbacked.made y hy
  · exact fun y hy => hexchanges ▸ List.mem_append_right _ hy

omit [Collaborators ω] in
theorem drop_leaves {x : Delivery ω} {d : Dispatch} {earlier : List (Leg ω)} (sound : r.Sound now)
    (legs : x.legs = leg :: earlier) (owned : leg.Owned r.outside.exchanges) :
    (x.drop d now id r).1.legs = [leg.drop now id r d.stage] ++ earlier ∧
      Leaves now id r (x.drop d now id r).2 [leg.drop now id r d.stage] (x.drop d now id r).1.standing := by
  have hbacked : leg.attempt.Backed now id r (Attempt.drop id r d.stage) (.ended (.error .timeout)) :=
    (Attempt.Backed.fresh sound).drop
  refine ⟨legs_drop legs now id r, hbacked.sound, hbacked.grows, hbacked.others, ?_, ?_, ?_⟩
  · intro d' hd
    cases hd
  · intro leg' hleg
    rw [List.mem_singleton.1 hleg]
    intro y hy
    rw [Leg.exchanges_drop] at hy
    exact (owned y hy).mono hbacked.grows.subset
  · intro y hy
    have houtside : (x.drop d now id r).2.outside = r.outside := Attempt.drop_outside id r d.stage
    rw [Relays.since_of_eq houtside] at hy
    cases hy

end Delivery

/-! ## Runs -/

namespace Relaying
variable {t t' : Relaying ω} {id : ProcessId}

/-- Every signature in use is backed, and every exchange belongs to a leg that may make it. -/
structure Backed (t : Relaying ω) : Prop where
  sound : t.relays.Sound t.now
  stages : ∀ id x d, t.Delivers id x → x.standing = .running d →
    (Phase.at d.stage).Backed d.attempt t.now id t.relays
  owned : ∀ id x leg, t.Delivers id x → leg ∈ x.legs → leg.Owned t.relays.outside.exchanges
  accounted : ∀ e ∈ t.relays.outside.exchanges, ∃ id x leg, t.Delivers id x ∧ leg ∈ x.legs ∧
    e ∈ leg.exchanges

theorem sound_relaysFor (h : t.relays.Sound t.now) (id : ProcessId) : (t.relaysFor id).Sound t.now :=
  ⟨h.orderly, h.vouched⟩

theorem backed_start (config : RelayConfig) (signatures : SignatureCacheConfig) (outside : ω) :
    Backed (start config signatures outside) where
  sound := ⟨SignatureCache.orderly_new signatures, SignatureCache.vouched_new signatures⟩
  stages _ _ _ delivers := absurd delivers not_delivers_start
  owned _ _ _ delivers := absurd delivers not_delivers_start
  accounted := by
    intro e he
    cases he

theorem Backed.wait (h : Backed t) {now : Nat} (later : t.now ≤ now) : Backed { t with now } where
  sound := h.sound.mono later
  stages id x d delivers running :=
    (h.stages id x d delivers running).mono (fun _ hx => hx) later fun _ _ hasks => hasks
  owned := h.owned
  accounted := h.accounted

/-- A change to the relays that makes no exchange and leaves every call where it is. -/
theorem Backed.of_frame (h : Backed t) {r : Relays (Ledger ω)}
    (houtside : r.outside.exchanges = t.relays.outside.exchanges) (sound : r.Sound t.now)
    (hcalls : r.signatures.calls = t.relays.signatures.calls) : Backed { t with relays := r } where
  sound := sound
  stages id x d delivers running := by
    refine (h.stages id x d delivers running).mono (houtside ▸ fun _ hx => hx) (Nat.le_refl _) ?_
    exact fun request app hasks => hasks.of_eq hcalls
  owned id x leg delivers hleg := houtside ▸ h.owned id x leg delivers hleg
  accounted e he := h.accounted e (houtside ▸ he)

theorem Backed.put_delivery (h : Backed t) {x : Delivery ω} {r : Relays (Ledger ω)}
    {newer earlier : List (Leg ω)} (legs : x.legs = newer ++ earlier)
    (leaves : Delivery.Leaves t.now id (t.relaysFor id) r newer x.standing)
    (owned : ∀ leg ∈ earlier, leg.Owned t.relays.outside.exchanges)
    (kept : ∀ y, t.Delivers id y → ∀ leg ∈ y.legs, ∃ leg' ∈ x.legs, leg.exchanges ⊆ leg'.exchanges) :
    Backed (t.put id (.delivery x) r) where
  sound := leaves.sound
  stages := by
    intro id' y d delivers running
    rcases delivers_put delivers with ⟨rfl, heq⟩ | ⟨hne, found⟩
    · cases heq
      exact leaves.stage d running
    · exact (h.stages id' y d found running).mono leaves.grows.subset (Nat.le_refl _)
        (leaves.others id' hne)
  owned := by
    intro id' y leg delivers hleg
    rcases delivers_put delivers with ⟨rfl, heq⟩ | ⟨hne, found⟩
    · cases heq
      rcases List.mem_append.1 (legs ▸ hleg) with hleg | hleg
      · exact leaves.owned leg hleg
      · exact (owned leg hleg).mono leaves.grows.subset
    · exact (h.owned id' y leg found hleg).mono leaves.grows.subset
  accounted := by
    intro e he
    rw [show (t.put id (.delivery x) r).relays = r from rfl, leaves.grows.eq_append] at he
    rcases List.mem_append.1 he with he | he
    · obtain ⟨id', y, leg, delivers, hleg, hmem⟩ := h.accounted e he
      by_cases hid : id' = id
      · obtain ⟨leg', hleg', hsub⟩ := kept y (hid ▸ delivers) leg hleg
        exact ⟨id, x, leg', Table.find?_insert_self .., hleg', hsub hmem⟩
      · exact ⟨id', y, leg, (Table.find?_insert_of_ne _ hid _).trans delivers, hleg, hmem⟩
    · obtain ⟨leg, hleg, hmem⟩ := leaves.accounted e he
      exact ⟨id, x, leg, Table.find?_insert_self .., legs ▸ List.mem_append_left _ hleg, hmem⟩

theorem Backed.put_permit (h : Backed t) {p : PermitCall} {r : Relays (Ledger ω)}
    (away : ∀ y, ¬ t.Delivers id y) (hsignatures : r.signatures = t.relays.signatures)
    (houtside : r.outside = t.relays.outside) : Backed (t.put id (.permit p) r) := by
  have hframe : Backed { t with relays := r } := by
    refine h.of_frame (by rw [houtside]) ⟨hsignatures ▸ h.sound.orderly, ?_⟩ (by rw [hsignatures])
    rw [hsignatures, houtside]
    exact h.sound.vouched
  have hfound : ∀ {id' y}, (t.put id (.permit p) r).Delivers id' y → t.Delivers id' y := by
    intro id' y delivers
    rcases delivers_put delivers with ⟨-, heq⟩ | ⟨-, found⟩
    · cases heq
    · exact found
  refine ⟨hframe.sound, ?_, ?_, ?_⟩
  · exact fun id' y d delivers running => hframe.stages id' y d (hfound delivers) running
  · exact fun id' y leg delivers hleg => hframe.owned id' y leg (hfound delivers) hleg
  · intro e he
    obtain ⟨id', y, leg, delivers, hleg, hmem⟩ := hframe.accounted e he
    have hne : id' ≠ id := fun heq => away y (heq ▸ delivers)
    exact ⟨id', y, leg, (Table.find?_insert_of_ne _ hne _).trans delivers, hleg, hmem⟩

variable [Collaborators ω] {config : RelayConfig} {signatures : SignatureCacheConfig}

theorem Backed.resume (h : Backed t) {x : Delivery ω} {d : Dispatch} (found : t.Delivers id x)
    (running : x.standing = .running d) (ran : x.Ran config id) :
    Backed (t.put id (.delivery (x.resume d t.now id (t.relaysFor id)).1)
      (x.resume d t.now id (t.relaysFor id)).2) := by
  obtain ⟨leg, earlier, legs, attempt, -⟩ := ran.shape.running running
  have howned : ∀ leg' ∈ leg :: earlier, leg'.Owned t.relays.outside.exchanges :=
    fun leg' hleg => h.owned id x leg' found (legs ▸ hleg)
  obtain ⟨newer, hlegs, hmem, leaves⟩ := Delivery.resume_leaves (sound_relaysFor h.sound id)
    (h.stages id x d found running) legs attempt (howned leg List.mem_cons_self)
  refine h.put_delivery hlegs leaves (fun leg' hleg => howned leg' (List.mem_cons_of_mem _ hleg)) ?_
  intro y delivers leg' hleg'
  cases found.symm.trans delivers
  rw [legs] at hleg'
  rw [hlegs]
  rcases List.mem_cons.1 hleg' with rfl | hleg'
  · refine ⟨_, List.mem_append_left _ hmem, ?_⟩
    rw [Leg.exchanges_resume]
    exact List.subset_append_left _ _
  · exact ⟨leg', List.mem_append_right _ hleg', fun _ hx => hx⟩

theorem Backed.drop (h : Backed t) {x : Delivery ω} {d : Dispatch} (found : t.Delivers id x)
    (running : x.standing = .running d) (ran : x.Ran config id) :
    Backed (t.put id (.delivery (x.drop d t.now id (t.relaysFor id)).1)
      (x.drop d t.now id (t.relaysFor id)).2) := by
  obtain ⟨leg, earlier, legs, attempt, -⟩ := ran.shape.running running
  have howned : ∀ leg' ∈ leg :: earlier, leg'.Owned t.relays.outside.exchanges :=
    fun leg' hleg => h.owned id x leg' found (legs ▸ hleg)
  obtain ⟨hlegs, leaves⟩ := Delivery.drop_leaves (d := d) (sound_relaysFor h.sound id) legs
    (howned leg List.mem_cons_self)
  refine h.put_delivery hlegs leaves (fun leg' hleg => howned leg' (List.mem_cons_of_mem _ hleg)) ?_
  intro y delivers leg' hleg'
  cases found.symm.trans delivers
  rw [legs] at hleg'
  rw [hlegs]
  rcases List.mem_cons.1 hleg' with rfl | hleg'
  · exact ⟨_, List.mem_cons_self, (Leg.exchanges_drop ..).symm ▸ fun _ hx => hx⟩
  · exact ⟨leg', List.mem_cons_of_mem _ hleg', fun _ hx => hx⟩

theorem Backed.acted (h : Backed t) (acted : Acted t t')
    (ran : ∀ id x, t.Delivers id x → x.Ran config id) : Backed t' := by
  cases acted with
  | none => exact h
  | @dispatch id c payload new =>
    have hleaves := Delivery.begin_leaves (sound_relaysFor h.sound id) t.config id payload c
    refine h.put_delivery (List.append_nil _).symm hleaves (fun leg hleg => by cases hleg) ?_
    intro y delivers
    cases new.symm.trans delivers
  | acquire deadline new =>
    refine h.put_permit (fun y delivers => ?_) PermitCall.look_frame.1 PermitCall.look_frame.2
    cases new.symm.trans delivers
  | resume found running => exact h.resume found running (ran _ _ found)
  | look found =>
    refine h.put_permit (fun y delivers => ?_) PermitCall.look_frame.1 PermitCall.look_frame.2
    cases found.symm.trans delivers
  | drop found running => exact h.drop found running (ran _ _ found)
  | @leave id p found =>
    refine h.put_permit (fun y delivers => ?_) p.leave_frame.1 p.leave_frame.2
    cases found.symm.trans delivers
  | outside inner => exact h.of_frame rfl ⟨h.sound.orderly, h.sound.vouched⟩ rfl
  | evict key =>
    exact h.of_frame rfl ⟨h.sound.orderly.of_eq rfl rfl rfl rfl rfl, h.sound.vouched.evict key⟩ rfl
  | clear => exact h.of_frame rfl ⟨h.sound.orderly.of_eq rfl rfl rfl rfl rfl, h.sound.vouched.clear⟩ rfl
  | sweep =>
    exact h.of_frame rfl ⟨SignatureCache.Move.sweep.orderly h.sound.orderly, h.sound.vouched.sweep⟩ rfl

theorem Reached.backed (h : Reached config signatures t) : Backed t := by
  induction h with
  | start outside => exact backed_start config signatures outside
  | wait h later ih => exact ih.wait later
  | act h act ih => exact ih.acted act.acted h.ran.2

end Relaying
end RelayGateway
