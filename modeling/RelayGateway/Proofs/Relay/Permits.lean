import RelayGateway.Proofs.Limiter
import RelayGateway.Proofs.Relay.Conversation
import RelayGateway.Proofs.Relay.Relaying
import RelayGateway.Script

/-! # Posts in progress

Whoever posts holds a permit, whoever queues waits for one, and nobody else has to do with the limiter.
The limiter keeps track of all of them through every turn. So there are never more posts in progress than
there are permits, and when everyone has come to an end, in whatever way, all permits are free.
-/
namespace RelayGateway
variable {ω : Type}

def AttemptStage.place : AttemptStage → Place
  | queueing _ => .waiting
  | posting _ => .holding
  | _ => .away

/-- Where an attempt stands with the limiter. Within a turn one that queues may have been given its
permit already. -/
def Phase.Fits : Phase → Place → Prop
  | .at (.queueing _), place => place = .waiting ∨ place = .holding
  | .at stage, place => place = stage.place
  | _, place => place = .away

/-! ## Within a turn -/

/-- The limiter knows where everyone stands while `id` is at `place`, and whoever else was handed a permit
has been woken. -/
structure Relays.Placed (capacity : Nat) (others : ProcessId → Place) (id : ProcessId) (place : Place)
    (r : Relays ω) : Prop where
  tracks : Limiter.Tracks 0 r.limiter (Function.update others id place)
  woken : ∀ x ∈ r.limiter.granted, x ≠ id → x ∈ r.woken
  capacity : r.limiter.capacity = capacity

namespace Relays.Placed
variable {capacity : Nat} {others : ProcessId → Place} {id : ProcessId} {place : Place} {r r' : Relays ω}

theorem of_eq (h : Placed capacity others id place r) (hlimiter : r'.limiter = r.limiter)
    (hwoken : r.woken ⊆ r'.woken) : Placed capacity others id place r' where
  tracks := hlimiter ▸ h.tracks
  woken x hx hne := hwoken (h.woken x (hlimiter ▸ hx) hne)
  capacity := hlimiter ▸ h.capacity

theorem tracks_update {l : Limiter} {place' : Place}
    (h : Limiter.Tracks 0 l (Function.update (Function.update others id place) id place')) :
    Limiter.Tracks 0 l (Function.update others id place') := by
  rwa [Function.update_idem] at h

theorem request (h : Placed capacity others id .away r) :
    ∃ place, (place = .waiting ∨ place = .holding) ∧
      Placed capacity others id place { r with limiter := r.limiter.request id } := by
  have htracks := tracks_update (h.tracks.request (Function.update_self ..))
  refine ⟨_, ?_, htracks, ?_, Limiter.capacity_request.trans h.capacity⟩
  · split
    · exact .inr rfl
    · exact .inl rfl
  · intro x hx hne
    rw [Limiter.granted_request] at hx
    exact h.woken x hx hne

theorem take (h : Placed capacity others id place r) (hplace : place = .waiting ∨ place = .holding) :
    Placed capacity others id (if (r.limiter.take id).holds id then .holding else .waiting)
      { r with limiter := r.limiter.take id } := by
  have hwoken : ∀ x ∈ (r.limiter.take id).granted, x ≠ id → x ∈ r.woken :=
    fun x hx hne => h.woken x (Limiter.granted_take hx) hne
  refine ⟨?_, hwoken, Limiter.capacity_take.trans h.capacity⟩
  by_cases hgranted : id ∈ r.limiter.granted
  · have htracks := tracks_update (h.tracks.take hgranted)
    have hholds : (r.limiter.take id).holds id = true :=
      List.contains_iff_mem.2 ((htracks.holding id).1 (Function.update_self ..))
    rwa [if_pos hholds]
  · have htake : r.limiter.take id = r.limiter := by
      unfold Limiter.take
      exact if_neg fun hcontains => hgranted (List.contains_iff_mem.1 hcontains)
    have hholding := h.tracks.holding id
    rw [Function.update_self] at hholding
    dsimp only
    rw [htake]
    split
    · rename_i hholds
      exact hholding.2 (List.contains_iff_mem.1 hholds) ▸ h.tracks
    · rename_i hholds
      refine hplace.elim (fun hwaiting => hwaiting ▸ h.tracks) fun hheld => ?_
      exact absurd (List.contains_iff_mem.2 (hholding.1 hheld)) hholds

theorem release (h : Placed capacity others id .holding r) :
    Placed capacity others id .away (r.release id) where
  tracks := tracks_update (h.tracks.release (Function.update_self ..))
  woken x hx hne := by
    rcases Limiter.granted_release hx with hgranted | hwoken
    · exact List.mem_append_left _ (h.woken x hgranted hne)
    · exact List.mem_append_right _ hwoken
  capacity := Limiter.capacity_release.trans h.capacity

theorem withdraw (h : Placed capacity others id .waiting r) :
    Placed capacity others id .away (r.withdraw id) where
  tracks := tracks_update (h.tracks.withdraw (Function.update_self ..))
  woken x hx hne := by
    rcases Limiter.granted_withdraw hx with hgranted | hwoken
    · exact List.mem_append_left _ (h.woken x hgranted hne)
    · exact List.mem_append_right _ hwoken
  capacity := Limiter.capacity_withdraw.trans h.capacity

theorem drop {stage : AttemptStage} (h : Placed capacity others id stage.place r) :
    Placed capacity others id .away (Attempt.drop id r stage) := by
  cases stage with
  | signing answer => exact h.of_eq rfl (List.subset_append_left ..)
  | sharing => exact h.of_eq rfl (List.subset_append_left ..)
  | queueing body => exact h.withdraw
  | posting reply => exact h.release
  | validating verdict => exact h

/-- While `id` holds a permit fewer than all are held by others. -/
theorem encard_others_lt (h : Placed capacity others id .holding r) :
    {x | x ≠ id ∧ others x = .holding}.encard < capacity := by
  have hsub : {x | x ≠ id ∧ others x = .holding} ⊂ {x | Function.update others id .holding x = .holding} := by
    refine ⟨fun x hx => ?_, fun hall => ?_⟩
    · exact (Function.update_of_ne hx.1 ..).trans hx.2
    · exact (hall (Function.update_self ..)).1 rfl
  have hfinite : {x | x ≠ id ∧ others x = .holding}.Finite := by
    refine Set.Finite.subset ?_ hsub.1
    refine Set.encard_lt_top_iff.1 ?_
    rw [h.tracks.encard_holding]
    exact ENat.natCast_lt_top _
  calc {x | x ≠ id ∧ others x = .holding}.encard
      < {x | Function.update others id .holding x = .holding}.encard := hfinite.encard_lt_encard hsub
    _ = r.limiter.active := h.tracks.encard_holding
    _ ≤ r.limiter.capacity := mod_cast h.tracks.active_le
    _ = capacity := by rw [h.capacity]

end Relays.Placed

theorem Phase.Fits.eq_place {capacity now : Nat} {others : ProcessId → Place} {id : ProcessId}
    {place : Place} {stage : AttemptStage} {r : Relays ω} (fits : (Phase.at stage).Fits place)
    (h : r.Placed capacity others id place) (unready : stage.Unready now id r) : place = stage.place := by
  cases stage with
  | queueing body =>
    rcases fits with rfl | rfl
    · rfl
    · have hheld := (h.tracks.holding id).1 (Function.update_self ..)
      exact absurd hheld (Limiter.lacks_iff.1 unready).2
  | signing answer => exact fits
  | sharing => exact fits
  | posting reply => exact fits
  | validating verdict => exact fits

structure Phase.Admitted (capacity : Nat) (others : ProcessId → Place) (id : ProcessId)
    (b r : Relays (Ledger ω)) (p : Phase) : Prop where
  placed : ∃ place, p.Fits place ∧ r.Placed capacity others id place
  grows : b.Grows r
  /-- Whoever has posted found a permit that no other held. -/
  posted : (∃ x ∈ b.since r, x.isPost = true) →
    {x | x ≠ id ∧ others x = .holding}.encard < capacity

namespace Attempt
variable {capacity : Nat} {others : ProcessId → Place} {a : Attempt} {now : Nat} {id : ProcessId}
variable {b r r' : Relays (Ledger ω)} {p p' : Phase}

theorem placed_away {place : Place} (fits : place = .away) (h : r.Placed capacity others id place)
    (hlimiter : r'.limiter = r.limiter) (hwoken : r.woken ⊆ r'.woken) :
    ∃ place, place = .away ∧ r'.Placed capacity others id place :=
  ⟨place, fits, h.of_eq hlimiter hwoken⟩

variable [Collaborators ω]

theorem Move.placed (move : a.Move now id (r, p) (r', p'))
    (h : ∃ place, p.Fits place ∧ r.Placed capacity others id place) :
    ∃ place, p'.Fits place ∧ r'.Placed capacity others id place := by
  obtain ⟨place, fits, h⟩ := h
  cases move with
  | enter fallback =>
    obtain rfl : place = Place.away := fits
    exact h.request
  | refuse early bad =>
    rcases early with rfl | rfl <;> exact ⟨place, fits, h⟩
  | begin protocol good => exact placed_away fits h rfl (List.subset_append_left ..)
  | resume good => exact placed_away fits h rfl (List.subset_append_left ..)
  | share => exact ⟨place, fits, h⟩
  | sign good => exact placed_away fits h rfl (List.Subset.refl _)
  | signed ready => exact placed_away fits h rfl (List.subset_append_left ..)
  | unsigned => exact ⟨place, fits, h⟩
  | queue =>
    obtain rfl : place = Place.away := fits
    exact h.request
  | post holds =>
    have htaken := h.take fits
    rw [if_pos holds] at htaken
    exact ⟨.holding, rfl, htaken.of_eq rfl (List.Subset.refl _)⟩
  | unposted ready =>
    obtain rfl : place = Place.holding := fits
    exact ⟨.away, rfl, h.release⟩
  | accept fallback ready =>
    obtain rfl : place = Place.holding := fits
    exact ⟨.away, rfl, h.release⟩
  | validate protocol ready =>
    obtain rfl : place = Place.holding := fits
    exact ⟨.away, rfl, h.release.of_eq rfl (List.Subset.refl _)⟩
  | invalid ready => exact ⟨place, fits, h⟩
  | valid ready => exact ⟨place, fits, h⟩
  | lapse due unready => exact ⟨.away, rfl, (fits.eq_place h unready ▸ h).drop⟩

theorem Move.admitted (move : a.Move now id (r, p) (r', p')) (h : p.Admitted capacity others id b r) :
    p'.Admitted capacity others id b r' where
  placed := move.placed h.placed
  grows := h.grows.trans move.grows
  posted := by
    obtain ⟨xs, heq, hnoted⟩ := move.noted
    have hplaced := move.placed h.placed
    rw [Relays.since_append h.grows heq]
    rintro ⟨x, hx, hpost⟩
    rcases List.mem_append.1 hx with hbefore | hnew
    · exact h.posted ⟨x, hbefore, hpost⟩
    · cases hnoted with
      | silent => cases hnew
      | sign good answer =>
        cases List.mem_singleton.1 hnew
        cases hpost
      | validate protocol ready verdict =>
        cases List.mem_singleton.1 hnew
        cases hpost
      | post body reply =>
        obtain ⟨place, fits, hholding⟩ := hplaced
        obtain rfl : place = Place.holding := fits
        exact hholding.encard_others_lt

end Attempt

/-! ## Everyone together -/

def Standing.place : Standing Dispatch → Place
  | running d => d.stage.place
  | _ => .away

def PermitCall.place : PermitCall → Place
  | waiting _ => .waiting
  | held => .holding
  | gone => .away

def Participant.place : Participant ω → Place
  | delivery x => x.standing.place
  | permit p => p.place

theorem Delivery.Rests.placed {capacity now : Nat} {others : ProcessId → Place} {id : ProcessId}
    {b r : Relays (Ledger ω)} {standing : Standing Dispatch}
    (h : Delivery.Rests (fun r _ p => p.Admitted capacity others id b r) now id r standing) :
    r.Placed capacity others id standing.place ∧
      (standing.place = .waiting → id ∉ r.limiter.granted) := by
  cases h with
  | ended a result holds =>
    obtain ⟨place, fits, hplaced⟩ := holds.placed
    obtain rfl : place = Place.away := fits
    exact ⟨hplaced, nofun⟩
  | running d holds early unready =>
    obtain ⟨place, fits, hplaced⟩ := holds.placed
    have hstays : r.Placed capacity others id d.stage.place := fits.eq_place hplaced unready ▸ hplaced
    refine ⟨hstays, fun hwaiting => ?_⟩
    have hstage : d.stage.place = .waiting := hwaiting
    generalize d.stage = stage at hstage unready
    cases stage with
    | queueing body => exact (Limiter.lacks_iff.1 unready).1
    | _ => cases hstage

theorem Delivery.Rests.posted {capacity now : Nat} {others : ProcessId → Place} {id : ProcessId}
    {b r : Relays (Ledger ω)} {standing : Standing Dispatch}
    (h : Delivery.Rests (fun r _ p => p.Admitted capacity others id b r) now id r standing)
    (posted : ∃ x ∈ b.since r, x.isPost = true) :
    {x | x ≠ id ∧ others x = .holding}.encard < capacity := by
  cases h with
  | running d holds early unready => exact holds.posted posted
  | ended a result holds => exact holds.posted posted

namespace PermitCall
variable {capacity now : Nat} {others : ProcessId → Place} {id : ProcessId} {deadline : Option Nat}
variable {r : Relays (Ledger ω)}

theorem look_placed (now : Nat) (deadline : Option Nat) {place : Place} (h : r.Placed capacity others id place)
    (hplace : place = .waiting ∨ place = .holding) :
    (look now id deadline r).2.Placed capacity others id (look now id deadline r).1.place ∧
      ((look now id deadline r).1.place = .waiting →
        id ∉ (look now id deadline r).2.limiter.granted) := by
  have htaken := h.take hplace
  unfold look
  dsimp only
  split
  · rw [if_pos ‹_›] at htaken
    exact ⟨htaken, nofun⟩
  · rename_i hholds
    rw [if_neg hholds] at htaken
    obtain ⟨htake, hlacks⟩ := Limiter.take_of_not_holds (Bool.eq_false_iff.2 hholds)
    split
    · exact ⟨htaken.withdraw, nofun⟩
    · refine ⟨htaken, fun _ => ?_⟩
      dsimp only
      rw [htake]
      exact (Limiter.lacks_iff.1 hlacks).1

theorem acquire_placed (now : Nat) (deadline : Option Nat)
    (h : r.Placed capacity others id .away) :
    (acquire now id deadline r).2.Placed capacity others id (acquire now id deadline r).1.place ∧
      ((acquire now id deadline r).1.place = .waiting →
        id ∉ (acquire now id deadline r).2.limiter.granted) := by
  obtain ⟨place, hplace, hrequested⟩ := h.request
  exact look_placed now deadline hrequested hplace

theorem leave_placed {p : PermitCall} (h : r.Placed capacity others id p.place) :
    (p.leave id r).Placed capacity others id .away := by
  cases p with
  | waiting deadline => exact h.withdraw
  | held => exact h.release
  | gone => exact h

end PermitCall

namespace Relaying

def place (t : Relaying ω) (id : ProcessId) : Place :=
  (t.participants.find? id).elim .away Participant.place

def Posts (t : Relaying ω) (id : ProcessId) : Prop :=
  ∃ x d reply, t.Delivers id x ∧ x.standing = .running d ∧ d.stage = .posting reply

structure Permitted (limit : Nat) (t : Relaying ω) : Prop where
  tracks : Limiter.Tracks 0 t.relays.limiter t.place
  woken : ∀ x ∈ t.relays.limiter.granted, x ∈ t.relays.woken
  capacity : t.relays.limiter.capacity = max 1 limit

variable {limit : Nat} {t t' : Relaying ω} {id : ProcessId} {p : Participant ω} {r : Relays (Ledger ω)}

theorem place_of_find? (h : t.participants.find? id = some p) : t.place id = p.place := by
  unfold place
  rw [h]
  rfl

theorem place_of_new (h : t.participants.find? id = none) : t.place id = .away := by
  unfold place
  rw [h]
  rfl

theorem place_put (t : Relaying ω) (id : ProcessId) (p : Participant ω) (r : Relays (Ledger ω)) :
    (t.put id p r).place = Function.update t.place id p.place := by
  funext x
  unfold place put
  rw [Table.find?_insert]
  by_cases hx : x = id
  · rw [if_pos hx, hx, Function.update_self]
    rfl
  · rw [if_neg hx, Function.update_of_ne hx]

theorem place_of_posts (h : t.Posts id) : t.place id = .holding := by
  obtain ⟨x, d, reply, found, running, stage⟩ := h
  calc t.place id = x.standing.place := place_of_find? found
    _ = d.stage.place := by rw [running, Standing.place]
    _ = .holding := by rw [stage, AttemptStage.place]

theorem since_relaysFor (t : Relaying ω) (id : ProcessId) : t.relays.since (t.relaysFor id) = [] :=
  Relays.since_of_eq rfl

namespace Permitted

theorem start (config : RelayConfig) (signatures : SignatureCacheConfig) (outside : ω) :
    Permitted config.concurrencyLimit (start config signatures outside) where
  tracks := Limiter.tracks_new _
  woken _ h := nomatch h
  capacity := rfl

theorem placed (h : Permitted limit t) (id : ProcessId) :
    (t.relaysFor id).Placed (max 1 limit) t.place id (t.place id) where
  tracks := by
    rw [Function.update_eq_self]
    exact h.tracks
  woken x hx hne := List.mem_filter.2 ⟨h.woken x hx, by simpa using hne⟩
  capacity := h.capacity

theorem of_put (h : r.Placed (max 1 limit) t.place id p.place)
    (settled : p.place = .waiting → id ∉ r.limiter.granted) : Permitted limit (t.put id p r) where
  tracks := by
    rw [place_put]
    exact h.tracks
  woken x hx := by
    refine h.woken x hx ?_
    -- Whoever has just had a turn and still waits has been handed nothing.
    rintro rfl
    have hwaiting := (h.tracks.waiting x).2 (.inr hx)
    rw [Function.update_self] at hwaiting
    exact settled hwaiting hx
  capacity := h.capacity

theorem of_eq (h : Permitted limit t) (hplace : t'.place = t.place)
    (hlimiter : t'.relays.limiter = t.relays.limiter) (hwoken : t'.relays.woken = t.relays.woken) :
    Permitted limit t' where
  tracks := by
    rw [hplace, hlimiter]
    exact h.tracks
  woken := by
    rw [hlimiter, hwoken]
    exact h.woken
  capacity := hlimiter ▸ h.capacity

/-- The turn of a participant starts from relays on which nothing has been exchanged yet. -/
theorem admitted (h : Permitted limit t) {phase : Phase} (fits : phase.Fits (t.place id)) :
    phase.Admitted (max 1 limit) t.place id t.relays (t.relaysFor id) where
  placed := ⟨t.place id, fits, h.placed id⟩
  grows := .rfl
  posted := by
    rintro ⟨x, hx, -⟩
    rw [since_relaysFor] at hx
    cases hx

theorem fits_of_running {x : Delivery ω} {d : Dispatch} (found : t.Delivers id x)
    (running : x.standing = .running d) : (Phase.at d.stage).Fits (t.place id) := by
  have hplace : t.place id = d.stage.place :=
    (place_of_find? found).trans (congrArg Standing.place running)
  rw [hplace]
  cases d.stage with
  | queueing body => exact .inl rfl
  | _ => rfl

variable [Collaborators ω]

omit [Collaborators ω] in
theorem further {capacity : Nat} {others : ProcessId → Place} {b r : Relays (Ledger ω)} {e : RelayError}
    (h : (Phase.ended (.error e)).Admitted capacity others id b r) :
    Phase.fresh.Admitted capacity others id b r :=
  ⟨h.placed, h.grows, h.posted⟩

theorem begin_rests (h : Permitted limit t) (new : t.participants.find? id = none)
    (c : RequestContext) (payload : RelayPayload) :
    (Delivery.begin t.config t.now id payload c (t.relaysFor id)).2 = t.relaysFor id ∧
        (∃ e, (Delivery.begin t.config t.now id payload c (t.relaysFor id)).1.standing =
          .ended t.now (.error e)) ∨
      Delivery.Rests (fun r _ p => p.Admitted (max 1 limit) t.place id t.relays r) t.now id
        (Delivery.begin t.config t.now id payload c (t.relaysFor id)).2
        (Delivery.begin t.config t.now id payload c (t.relaysFor id)).1.standing :=
  Delivery.begin_rests _ (fun move h => move.admitted h) further
    (fun _ => h.admitted (place_of_new new)) t.config payload c

theorem resume_rests (h : Permitted limit t) {x : Delivery ω} {d : Dispatch} (found : t.Delivers id x)
    (running : x.standing = .running d) :
    Delivery.Rests (fun r _ p => p.Admitted (max 1 limit) t.place id t.relays r) t.now id
      (x.resume d t.now id (t.relaysFor id)).2 (x.resume d t.now id (t.relaysFor id)).1.standing :=
  Delivery.resume_rests _ (fun move h => move.admitted h) further x
    (h.admitted (fits_of_running found running))

theorem acted (h : Permitted limit t) (acted : Acted t t') : Permitted limit t' := by
  cases acted with
  | none => exact h
  | @dispatch id c payload new =>
    rcases h.begin_rests new c payload with ⟨hsame, e, hended⟩ | hrests
    · have haway : (Participant.delivery (Delivery.begin t.config t.now id payload c
          (t.relaysFor id)).1).place = .away := congrArg Standing.place hended
      refine of_put ?_ ?_
      · rw [hsame, haway, ← place_of_new new]
        exact h.placed id
      · rw [haway]
        nofun
    · exact of_put hrests.placed.1 hrests.placed.2
  | @acquire id deadline new =>
    have hplaced := h.placed id
    rw [place_of_new new] at hplaced
    have hacquired := PermitCall.acquire_placed t.now deadline hplaced
    exact of_put hacquired.1 hacquired.2
  | resume found running =>
    have hrests := h.resume_rests found running
    exact of_put hrests.placed.1 hrests.placed.2
  | @look id deadline found =>
    have hplaced := h.placed id
    rw [place_of_find? found] at hplaced
    have hlooked := PermitCall.look_placed t.now deadline hplaced (.inl rfl)
    exact of_put hlooked.1 hlooked.2
  | @drop id x d found running =>
    have hplaced := h.placed id
    rw [place_of_find? found, Participant.place, running] at hplaced
    exact of_put hplaced.drop nofun
  | @leave id p found =>
    have hplaced := h.placed id
    rw [place_of_find? found] at hplaced
    exact of_put (PermitCall.leave_placed hplaced) nofun
  | outside inner => exact h.of_eq rfl rfl rfl
  | evict key => exact h.of_eq rfl rfl rfl
  | clear => exact h.of_eq rfl rfl rfl
  | sweep => exact h.of_eq rfl rfl rfl

end Permitted

variable [Collaborators ω]

theorem Reached.permitted {config : RelayConfig} {signatures : SignatureCacheConfig}
    (h : Reached config signatures t) : Permitted config.concurrencyLimit t := by
  induction h with
  | start outside => exact .start config signatures outside
  | act h act ih => exact ih.acted act.acted
  | wait h later ih => exact ih.of_eq rfl rfl rfl

/-! ## The limit -/

omit [Collaborators ω] in
theorem find?_of_place (h : t.place id ≠ .away) : ∃ p, t.participants.find? id = some p ∧
    t.place id = p.place := by
  cases hfound : t.participants.find? id with
  | none => exact absurd (place_of_new hfound) h
  | some p => exact ⟨p, rfl, place_of_find? hfound⟩

omit [Collaborators ω] in
theorem isRunning_of_waiting (h : p.place = .waiting) : p.isRunning = true := by
  cases p with
  | delivery x =>
    generalize hstanding : x.standing = standing
    rw [Participant.place, hstanding] at h
    cases standing with
    | running d => rw [Participant.isRunning, hstanding, Standing.running?, Option.isSome_some]
    | ended now result => cases h
    | dropped => cases h
  | permit p =>
    cases p with
    | waiting deadline => rfl
    | held => cases h
    | gone => cases h

omit [Collaborators ω] in
theorem place_of_isOver (h : p.isOver = true) : p.place = .away := by
  cases p with
  | delivery x =>
    generalize hstanding : x.standing = standing
    rw [Participant.isOver, hstanding] at h
    rw [Participant.place, hstanding]
    cases standing with
    | running d => cases h
    | ended now result => rfl
    | dropped => rfl
  | permit p =>
    cases p with
    | waiting deadline => cases h
    | held => cases h
    | gone => rfl

omit [Collaborators ω] in
theorem Permitted.granted_eq_nil (h : Permitted limit t) (idle : ∀ id, ¬ t.CanRun id) :
    t.relays.limiter.granted = [] := by
  refine List.eq_nil_iff_forall_not_mem.2 fun id hid => ?_
  have hwaiting := (h.tracks.waiting id).2 (.inr hid)
  obtain ⟨p, found, hplace⟩ := find?_of_place (by rw [hwaiting]; nofun)
  exact idle id ⟨p, found, isRunning_of_waiting (hplace ▸ hwaiting), .inl (h.woken id hid)⟩

def BeginsPost (t : Relaying ω) (id : ProcessId) : Prop :=
  (∃ x ∈ t.relays.since (t.turn id).relays, x.isPost = true) ∨
    ∃ c payload, t.participants.find? id = none ∧
      ∃ x ∈ t.relays.since (t.dispatch id c payload).relays, x.isPost = true

/-- How many posts there are, and where the permits are. -/
structure WithinLimit (limit : Nat) (t : Relaying ω) : Prop where
  /-- A post in progress runs under one permit. -/
  held : ∀ id, t.Posts id → t.relays.limiter.holders.count id = 1
  posts : {id | t.Posts id}.encard ≤ (max 1 limit : Nat)
  /-- Also a post that has its answer at once begins only when there is a permit left for it. -/
  begins : ∀ id, t.BeginsPost id →
    {other | other ≠ id ∧ t.Posts other}.encard < (max 1 limit : Nat)
  active : {id | t.place id = .holding}.encard = t.relays.limiter.active
  active_le : t.relays.limiter.active ≤ max 1 limit
  /-- When nobody can run every permit is free or in use, and nobody waits for one that is free. -/
  settled : (∀ id, ¬ t.CanRun id) →
    t.relays.limiter.active + t.relays.limiter.available = max 1 limit ∧
      ((∃ id, t.place id = .waiting) → t.relays.limiter.available = 0)
  /-- When everyone has come to an end all permits are free. -/
  drained : (∀ id p, t.participants.find? id = some p → p.isOver = true) →
    t.relays.limiter.active = 0 ∧ t.relays.limiter.available = max 1 limit

theorem Permitted.encard_lt_of_beginsPost (h : Permitted limit t) (begins : t.BeginsPost id) :
    {other | other ≠ id ∧ t.Posts other}.encard < (max 1 limit : Nat) := by
  have hlt : {x | x ≠ id ∧ t.place x = .holding}.encard < (max 1 limit : Nat) := by
    rcases begins with posted | ⟨c, payload, new, posted⟩
    · rcases t.turn_cases id with ⟨y, d, found, running, heq⟩ | ⟨deadline, found, heq⟩ | ⟨heq, -⟩
      · rw [heq] at posted
        exact (h.resume_rests found running).posted posted
      · have hsilent : t.relays.since (t.turn id).relays = [] := by
          rw [heq]
          exact Relays.since_of_eq PermitCall.look_frame.2
        simp [hsilent] at posted
      · have hsilent : t.relays.since (t.turn id).relays = [] := Relays.since_of_eq (by rw [heq])
        simp [hsilent] at posted
    · rcases h.begin_rests new c payload with ⟨hsame, e, hended⟩ | hrests
      · have hsilent : t.relays.since (t.dispatch id c payload).relays = [] := by
          rw [show (t.dispatch id c payload).relays = t.relaysFor id from hsame, since_relaysFor]
        simp [hsilent] at posted
      · exact hrests.posted posted
  refine lt_of_le_of_lt (Set.encard_le_encard ?_) hlt
  exact fun other hother => ⟨hother.1, place_of_posts hother.2⟩

/-- In every state of every run, whatever order the participants run in and however they end, there are
no more posts in progress than permits, and every permit is accounted for. -/
theorem Reached.withinLimit {config : RelayConfig} {signatures : SignatureCacheConfig}
    (h : Reached config signatures t) : WithinLimit config.concurrencyLimit t := by
  have hpermitted := h.permitted
  have hcapacity := hpermitted.capacity
  have htracks := hpermitted.tracks
  have hconserved := htracks.conserved
  have hactive : t.relays.limiter.active = t.relays.limiter.holders.length := rfl
  have hle := htracks.active_le
  constructor
  · intro id posts
    exact htracks.count_holders (place_of_posts posts)
  · calc {id | t.Posts id}.encard
        ≤ {id | t.place id = .holding}.encard := Set.encard_le_encard fun _ => place_of_posts
      _ = t.relays.limiter.active := htracks.encard_holding
      _ ≤ max 1 config.concurrencyLimit := by
        rw [← hcapacity]
        exact_mod_cast hle
  · intro id begins
    exact hpermitted.encard_lt_of_beginsPost begins
  · exact htracks.encard_holding
  · exact hcapacity ▸ hle
  · intro idle
    have hgranted := hpermitted.granted_eq_nil idle
    rw [hgranted, List.length_nil] at hconserved
    refine ⟨by omega, ?_⟩
    rintro ⟨id, hwaiting⟩
    have hqueue : id ∈ t.relays.limiter.queue := by
      simpa [hgranted] using (htracks.waiting id).1 hwaiting
    exact htracks.busy (List.ne_nil_of_mem hqueue)
  · intro ended
    have haway : ∀ id, t.place id = .away := by
      intro id
      cases hfound : t.participants.find? id with
      | none => exact place_of_new hfound
      | some p => rw [place_of_find? hfound, place_of_isOver (ended id p hfound)]
    have hgranted : t.relays.limiter.granted = [] := List.eq_nil_iff_forall_not_mem.2 fun id hid => by
      cases (haway id).symm.trans ((htracks.waiting id).2 (.inr hid))
    have hholders : t.relays.limiter.holders = [] := List.eq_nil_iff_forall_not_mem.2 fun id hid => by
      cases (haway id).symm.trans ((htracks.holding id).2 hid)
    rw [hgranted, hholders, List.length_nil] at hconserved
    rw [hactive, hholders]
    exact ⟨rfl, by omega⟩

section Example

/-- No limit of its own still leaves one permit. -/
def narrowConfig : RelayConfig := ⟨0, 1000, 100⟩

def spareContext : RequestContext :=
  ((RequestContext.new default "eth" (.ofEndpoints [.fallback "https://spare" []]) ∅
    false).selectEndpoint fun addrs => .ok (addrs.headD default)).1

def spareScript : Script :=
  { (default : Script) with transport := [⟨"https://spare", 10, none, none⟩] }

def contended : Relaying Script :=
  (((start narrowConfig default spareScript).dispatch 0 spareContext ⟨[], "", .jsonRpc, none⟩).dispatch
    1 spareContext ⟨[], "", .jsonRpc, none⟩).acquire 2 none

def handedOn : Relaying Script := (({ contended with now := 10 }).turn 0).turn 1

/-- The permit goes from the first dispatch to the second, while a third party still waits. -/
theorem withinLimit_handed_on :
    Reached narrowConfig default handedOn ∧
      [0, 1, 2].map contended.place = [.holding, .waiting, .waiting] ∧
      [0, 1, 2].map handedOn.place = [.away, .holding, .waiting] ∧
      WithinLimit narrowConfig.concurrencyLimit handedOn := by
  have hcontended : Reached narrowConfig default contended := by
    refine (((Reached.start spareScript).act (.dispatch 0 _ _ ?_)).act (.dispatch 1 _ _ ?_)).act
      (.acquire 2 _ ?_)
    · rfl
    · exact Option.isNone_iff_eq_none.1 (by decide +kernel)
    · exact Option.isNone_iff_eq_none.1 (by decide +kernel)
  have hreached : Reached narrowConfig default handedOn :=
    ((hcontended.wait (by decide +kernel)).act (.turn 0)).act (.turn 1)
  exact ⟨hreached, by decide +kernel, by decide +kernel, hreached.withinLimit⟩

end Example

end Relaying
end RelayGateway
