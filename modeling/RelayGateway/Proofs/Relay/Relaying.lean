import RelayGateway.Process.Turns
import RelayGateway.Proofs.Relay.Delivery

/-! # Dispatches side by side

Any number of dispatches share a limiter, a signature cache and the collaborators with others who take
permits for themselves. One of them runs at a time, until it has to wait. Between two turns the
collaborators may change as they like, the cache may lose what it holds, and time may pass. In a run that
keeps time the clock only moves when nobody can run, and not past anything that somebody waits for.
-/
namespace RelayGateway
variable {ω : Type}

inductive PermitCall where
  | waiting (deadline : Option Nat)
  | held
  | gone

namespace PermitCall

def look (now : Nat) (id : ProcessId) (deadline : Option Nat) (r : Relays ω) :
    PermitCall × Relays ω :=
  let r := { r with limiter := r.limiter.take id }
  if r.limiter.holds id then (.held, r)
  else if deadline.any (· ≤ now) then (.gone, r.withdraw id)
  else (.waiting deadline, r)

def acquire (now : Nat) (id : ProcessId) (deadline : Option Nat) (r : Relays ω) :
    PermitCall × Relays ω :=
  look now id deadline { r with limiter := r.limiter.request id }

/-- The permit is given back, or the request for it given up. -/
def leave (id : ProcessId) (r : Relays ω) : PermitCall → Relays ω
  | waiting _ => r.withdraw id
  | held => r.release id
  | gone => r

section Frame
variable {now : Nat} {id : ProcessId} {deadline : Option Nat} {r : Relays ω}

/-- Taking permits leaves the signature cache and the collaborators alone. -/
theorem look_frame : (look now id deadline r).2.signatures = r.signatures ∧
    (look now id deadline r).2.outside = r.outside := by
  unfold look
  dsimp only
  split
  · exact ⟨rfl, rfl⟩
  · split <;> exact ⟨rfl, rfl⟩

theorem leave_frame (p : PermitCall) :
    (p.leave id r).signatures = r.signatures ∧ (p.leave id r).outside = r.outside := by
  cases p <;> exact ⟨rfl, rfl⟩

end Frame

end PermitCall

/-! ## Activities that take permits

An activity of a gateway that takes a permit, or holds one for a while, takes the turns of such a call and
does nothing else with the limiter.
-/

def Activity.permitCall? : Activity → Option PermitCall
  | .acquire _ (some deadline) => some (.waiting (some deadline))
  | .hold _ .waiting => some (.waiting none)
  | .hold _ (.holding _) => some .held
  | _ => none

namespace World
open PermitCall
variable {now : Nat} {id : ProcessId} {w : World ω}

def acquireTurn (now : Nat) (id : ProcessId) (timeout : Nat) (w : World ω)
    (s : PermitCall × Relays ω) : WorldTurn ω :=
  match s.1 with
  | held => (w.withRelays s.2).finish now id (.acquired true) []
  | gone => (w.withRelays s.2).finish now id (.acquired false) s.2.woken
  | waiting deadline => (w.withRelays s.2).waitOn (.acquire timeout deadline) deadline.toList []

def holdTurn (now : Nat) (id : ProcessId) (duration : Nat) (w : World ω)
    (s : PermitCall × Relays ω) : WorldTurn ω :=
  match s.1 with
  | held => (w.withRelays s.2).holdOn now id duration (now + duration)
  | _ => (w.withRelays s.2).waitOn (.hold duration .waiting) [] []

theorem awaitPermit_eq (timeout deadline : Nat) : awaitPermit now id timeout deadline w =
    acquireTurn now id timeout w (look now id (some deadline) w.gateway.relays) := by
  unfold awaitPermit look
  dsimp only
  by_cases hheld : (w.gateway.relays.limiter.take id).holds id = true
  · rw [if_pos hheld]
    exact if_pos hheld
  · rw [if_neg hheld, Option.any_some]
    refine (if_neg hheld).trans ?_
    by_cases hdue : deadline ≤ now
    · rw [if_pos hdue, if_pos (decide_eq_true hdue)]
      rfl
    · rw [if_neg hdue, if_neg (by simpa using hdue)]
      rfl

theorem awaitHold_eq (duration : Nat) : awaitHold now id duration w =
    holdTurn now id duration w (look now id none w.gateway.relays) := by
  unfold awaitHold look
  dsimp only
  by_cases hheld : (w.gateway.relays.limiter.take id).holds id = true
  · rw [if_pos hheld]
    exact if_pos hheld
  · rw [if_neg hheld]
    exact if_neg hheld

theorem runAcquire_none (timeout : Nat) : runAcquire now id timeout none w =
    acquireTurn now id timeout w (acquire now id (some (now + timeout)) w.gateway.relays) :=
  awaitPermit_eq timeout (now + timeout)

theorem runHold_starting (duration : Nat) : runHold now id duration .starting w =
    holdTurn now id duration w (acquire now id none w.gateway.relays) :=
  awaitHold_eq duration

theorem endHold_eq : endHold now id w =
    (w.withRelays (held.leave id w.gateway.relays)).finish now id .ended
      (held.leave id w.gateway.relays).woken := rfl

/-- What is left of an activity that is dropped is what is left of its permit. -/
theorem dropActivity_permit {a : Activity} {p : PermitCall} (h : a.permitCall? = some p) :
    dropActivity id a w =
      (w.withRelays (p.leave id w.gateway.relays), (p.leave id w.gateway.relays).woken) := by
  unfold Activity.permitCall? at h
  split at h <;> cases h <;> rfl

end World

/-! ## Participants -/

inductive Participant (ω : Type) where
  | delivery (x : Delivery ω)
  | permit (p : PermitCall)

namespace Participant

def isRunning : Participant ω → Bool
  | delivery x => x.standing.running?.isSome
  | permit (.waiting _) => true
  | permit _ => false

def isOver : Participant ω → Bool
  | delivery x => x.standing.running?.isNone
  | permit .gone => true
  | permit _ => false

def alarms : Participant ω → List Nat
  | delivery x => x.standing.running?.elim [] Dispatch.alarms
  | permit (.waiting deadline) => deadline.toList
  | permit _ => []

end Participant

structure Relaying (ω : Type) where
  config : RelayConfig
  now : Nat
  relays : Relays (Ledger ω)
  participants : Table ProcessId (Participant ω)

namespace Relaying
variable {t t' : Relaying ω} {id : ProcessId}

def start (config : RelayConfig) (signatures : SignatureCacheConfig) (outside : ω) : Relaying ω :=
  ⟨config, 0, ⟨Limiter.new config.concurrencyLimit, SignatureCache.new signatures, ⟨outside, []⟩, []⟩, ∅⟩

/-- The relays as a turn finds them, which uses up what has woken the participant. -/
def relaysFor (t : Relaying ω) (id : ProcessId) : Relays (Ledger ω) :=
  { t.relays with woken := t.relays.woken.filter (· ≠ id) }

def put (t : Relaying ω) (id : ProcessId) (p : Participant ω) (r : Relays (Ledger ω)) : Relaying ω :=
  { t with relays := r, participants := t.participants.insert id p }

def acquire (t : Relaying ω) (id : ProcessId) (deadline : Option Nat) : Relaying ω :=
  let s := PermitCall.acquire t.now id deadline (t.relaysFor id)
  t.put id (.permit s.1) s.2

def leave (t : Relaying ω) (id : ProcessId) : Relaying ω :=
  match t.participants.find? id with
  | some (.delivery x) =>
    match x.standing with
    | .running d =>
      let s := x.drop d t.now id (t.relaysFor id)
      t.put id (.delivery s.1) s.2
    | _ => t
  | some (.permit p) => t.put id (.permit .gone) (p.leave id (t.relaysFor id))
  | none => t

/-- The participant can go on: it has been woken, or something it waits for has come. -/
def CanRun (t : Relaying ω) (id : ProcessId) : Prop :=
  ∃ p, t.participants.find? id = some p ∧ p.isRunning = true ∧
    (id ∈ t.relays.woken ∨ ∃ alarm ∈ p.alarms, alarm ≤ t.now)

def Delivers (t : Relaying ω) (id : ProcessId) (x : Delivery ω) : Prop :=
  t.participants.find? id = some (.delivery x)

variable [Collaborators ω]

def dispatch (t : Relaying ω) (id : ProcessId) (c : RequestContext) (payload : RelayPayload) :
    Relaying ω :=
  let s := Delivery.begin t.config t.now id payload c (t.relaysFor id)
  t.put id (.delivery s.1) s.2

def turn (t : Relaying ω) (id : ProcessId) : Relaying ω :=
  match t.participants.find? id with
  | some (.delivery x) =>
    match x.standing with
    | .running d =>
      let s := x.resume d t.now id (t.relaysFor id)
      t.put id (.delivery s.1) s.2
    | _ => t
  | some (.permit (.waiting deadline)) =>
    let s := PermitCall.look t.now id deadline (t.relaysFor id)
    t.put id (.permit s.1) s.2
  | _ => t

inductive Act (t : Relaying ω) : Relaying ω → Prop
  | dispatch (id : ProcessId) (c : RequestContext) (payload : RelayPayload)
      (new : t.participants.find? id = none) : Act t (t.dispatch id c payload)
  | acquire (id : ProcessId) (deadline : Option Nat) (new : t.participants.find? id = none) :
      Act t (t.acquire id deadline)
  | turn (id : ProcessId) : Act t (t.turn id)
  | leave (id : ProcessId) : Act t (t.leave id)
  | outside (inner : ω) :
      Act t { t with relays := { t.relays with outside := { t.relays.outside with inner } } }
  | evict (key : SignatureKey) :
      Act t { t with relays := { t.relays with signatures := t.relays.signatures.evict key } }
  | clear : Act t { t with relays := { t.relays with signatures := t.relays.signatures.clear } }
  | sweep : Act t { t with relays := { t.relays with signatures := t.relays.signatures.sweep } }

/-- What a run comes to when time passes as it likes. -/
inductive Reached (config : RelayConfig) (signatures : SignatureCacheConfig) : Relaying ω → Prop
  | start (outside : ω) : Reached config signatures (start config signatures outside)
  | act {t t' : Relaying ω} (h : Reached config signatures t) (act : Act t t') :
      Reached config signatures t'
  | wait {t : Relaying ω} (h : Reached config signatures t) {now : Nat} (later : t.now ≤ now) :
      Reached config signatures { t with now }

/-- The clock can move to `now`: nobody can run, and nobody waits for anything earlier. -/
structure Idle (t : Relaying ω) (now : Nat) : Prop where
  later : t.now < now
  idle : ∀ id, ¬ t.CanRun id
  early : ∀ id p, t.participants.find? id = some p → ∀ alarm ∈ p.alarms, now ≤ alarm

inductive ReachedInTime (config : RelayConfig) (signatures : SignatureCacheConfig) : Relaying ω → Prop
  | start (outside : ω) : ReachedInTime config signatures (start config signatures outside)
  | act {t t' : Relaying ω} (h : ReachedInTime config signatures t) (act : Act t t') :
      ReachedInTime config signatures t'
  | wait {t : Relaying ω} (h : ReachedInTime config signatures t) {now : Nat} (idle : t.Idle now) :
      ReachedInTime config signatures { t with now }

theorem ReachedInTime.reached {config : RelayConfig} {signatures : SignatureCacheConfig}
    (h : ReachedInTime config signatures t) : Reached config signatures t := by
  induction h with
  | start outside => exact .start outside
  | act h act ih => exact ih.act act
  | wait h idle ih => exact ih.wait (Nat.le_of_lt idle.later)

/-! ## What happens, case by case -/

inductive Acted (t : Relaying ω) : Relaying ω → Prop
  | none : Acted t t
  | dispatch {id : ProcessId} (c : RequestContext) (payload : RelayPayload)
      (new : t.participants.find? id = none) : Acted t (t.dispatch id c payload)
  | acquire {id : ProcessId} (deadline : Option Nat) (new : t.participants.find? id = none) :
      Acted t (t.acquire id deadline)
  | resume {id : ProcessId} {x : Delivery ω} {d : Dispatch} (found : t.Delivers id x)
      (running : x.standing = .running d) :
      Acted t (t.put id (.delivery (x.resume d t.now id (t.relaysFor id)).1)
        (x.resume d t.now id (t.relaysFor id)).2)
  | look {id : ProcessId} {deadline : Option Nat}
      (found : t.participants.find? id = some (.permit (.waiting deadline))) :
      Acted t (t.put id (.permit (PermitCall.look t.now id deadline (t.relaysFor id)).1)
        (PermitCall.look t.now id deadline (t.relaysFor id)).2)
  | drop {id : ProcessId} {x : Delivery ω} {d : Dispatch} (found : t.Delivers id x)
      (running : x.standing = .running d) :
      Acted t (t.put id (.delivery (x.drop d t.now id (t.relaysFor id)).1)
        (x.drop d t.now id (t.relaysFor id)).2)
  | leave {id : ProcessId} {p : PermitCall} (found : t.participants.find? id = some (.permit p)) :
      Acted t (t.put id (.permit .gone) (p.leave id (t.relaysFor id)))
  | outside (inner : ω) :
      Acted t { t with relays := { t.relays with outside := { t.relays.outside with inner } } }
  | evict (key : SignatureKey) :
      Acted t { t with relays := { t.relays with signatures := t.relays.signatures.evict key } }
  | clear : Acted t { t with relays := { t.relays with signatures := t.relays.signatures.clear } }
  | sweep : Acted t { t with relays := { t.relays with signatures := t.relays.signatures.sweep } }

/-- A turn resumes a dispatch or looks for a permit. One who does not run does nothing. -/
theorem turn_cases (t : Relaying ω) (id : ProcessId) :
    (∃ x d, t.Delivers id x ∧ x.standing = .running d ∧
        t.turn id = t.put id (.delivery (x.resume d t.now id (t.relaysFor id)).1)
          (x.resume d t.now id (t.relaysFor id)).2) ∨
      (∃ deadline, t.participants.find? id = some (.permit (.waiting deadline)) ∧
        t.turn id = t.put id (.permit (PermitCall.look t.now id deadline (t.relaysFor id)).1)
          (PermitCall.look t.now id deadline (t.relaysFor id)).2) ∨
      t.turn id = t ∧ ∀ p, t.participants.find? id = some p → p.isRunning = false := by
  unfold turn
  cases found : t.participants.find? id with
  | none => exact .inr (.inr ⟨rfl, fun p hp => by cases hp⟩)
  | some p =>
    have hidle : p.isRunning = false → ∀ q, some p = some q → q.isRunning = false := by
      rintro idle q ⟨⟩
      exact idle
    cases p with
    | delivery x =>
      dsimp only
      cases hstanding : x.standing with
      | running d => exact .inl ⟨x, d, found, hstanding, rfl⟩
      | ended now result =>
        exact .inr (.inr ⟨rfl, hidle (by rw [Participant.isRunning, hstanding]; rfl)⟩)
      | dropped => exact .inr (.inr ⟨rfl, hidle (by rw [Participant.isRunning, hstanding]; rfl)⟩)
    | permit p =>
      cases p with
      | waiting deadline => exact .inr (.inl ⟨deadline, rfl, rfl⟩)
      | held => exact .inr (.inr ⟨rfl, hidle rfl⟩)
      | gone => exact .inr (.inr ⟨rfl, hidle rfl⟩)

theorem acted_turn (t : Relaying ω) (id : ProcessId) : Acted t (t.turn id) := by
  rcases t.turn_cases id with ⟨x, d, found, running, heq⟩ | ⟨deadline, found, heq⟩ | ⟨heq, -⟩
  · exact heq ▸ .resume found running
  · exact heq ▸ .look found
  · exact heq.symm ▸ .none

theorem acted_leave (t : Relaying ω) (id : ProcessId) : Acted t (t.leave id) := by
  unfold leave
  split
  · rename_i x found
    split
    · exact .drop found ‹_›
    · exact .none
  · exact .leave ‹_›
  · exact .none

theorem Act.acted (act : Act t t') : Acted t t' := by
  cases act with
  | dispatch id c payload new => exact .dispatch c payload new
  | acquire id deadline new => exact .acquire deadline new
  | turn id => exact acted_turn t id
  | leave id => exact acted_leave t id
  | outside inner => exact .outside inner
  | evict key => exact .evict key
  | clear => exact .clear
  | sweep => exact .sweep

theorem Acted.config_eq (acted : Acted t t') : t'.config = t.config := by
  cases acted <;> rfl

theorem Acted.now_eq (acted : Acted t t') : t'.now = t.now := by
  cases acted <;> rfl

omit [Collaborators ω] in
theorem delivers_put {id' : ProcessId} {p : Participant ω} {r : Relays (Ledger ω)} {x : Delivery ω}
    (h : (t.put id p r).Delivers id' x) :
    id' = id ∧ p = .delivery x ∨ id' ≠ id ∧ t.Delivers id' x := by
  unfold Delivers put at h
  rw [Table.find?_insert] at h
  split at h
  · exact .inl ⟨‹_›, Option.some.inj h⟩
  · exact .inr ⟨‹_›, h⟩

omit [Collaborators ω] in
theorem not_delivers_start {config : RelayConfig} {signatures : SignatureCacheConfig} {outside : ω}
    {x : Delivery ω} : ¬ (start config signatures outside).Delivers id x := by
  have hnone : (start config signatures outside).participants.find? id = none := Table.find?_empty id
  unfold Delivers
  rw [hnone]
  exact nofun

inductive Change (t : Relaying ω) (id : ProcessId) : Delivery ω → Prop
  | none {x : Delivery ω} (found : t.Delivers id x) : Change t id x
  | begin (c : RequestContext) (payload : RelayPayload) :
      Change t id (Delivery.begin t.config t.now id payload c (t.relaysFor id)).1
  | resume {x : Delivery ω} {d : Dispatch} (found : t.Delivers id x) (running : x.standing = .running d) :
      Change t id (x.resume d t.now id (t.relaysFor id)).1
  | drop {x : Delivery ω} {d : Dispatch} (found : t.Delivers id x) (running : x.standing = .running d) :
      Change t id (x.drop d t.now id (t.relaysFor id)).1

theorem Acted.change (acted : Acted t t') {x : Delivery ω} (delivers : t'.Delivers id x) :
    Change t id x := by
  cases acted with
  | none => exact .none delivers
  | dispatch c payload new =>
    rcases delivers_put delivers with ⟨rfl, heq⟩ | ⟨-, found⟩
    · cases heq
      exact .begin c payload
    · exact .none found
  | acquire deadline new =>
    rcases delivers_put delivers with ⟨rfl, heq⟩ | ⟨-, found⟩
    · cases heq
    · exact .none found
  | resume found running =>
    rcases delivers_put delivers with ⟨rfl, heq⟩ | ⟨-, found'⟩
    · cases heq
      exact .resume found running
    · exact .none found'
  | look found =>
    rcases delivers_put delivers with ⟨rfl, heq⟩ | ⟨-, found'⟩
    · cases heq
    · exact .none found'
  | drop found running =>
    rcases delivers_put delivers with ⟨rfl, heq⟩ | ⟨-, found'⟩
    · cases heq
      exact .drop found running
    · exact .none found'
  | leave found =>
    rcases delivers_put delivers with ⟨rfl, heq⟩ | ⟨-, found'⟩
    · cases heq
    · exact .none found'
  | outside inner => exact .none delivers
  | evict key => exact .none delivers
  | clear => exact .none delivers
  | sweep => exact .none delivers

/-- Whatever dispatch is found, it has become what it is turn by turn. -/
theorem Reached.ran {config : RelayConfig} {signatures : SignatureCacheConfig}
    (h : Reached config signatures t) :
    t.config = config ∧ ∀ id x, t.Delivers id x → x.Ran config id := by
  induction h with
  | start outside => exact ⟨rfl, fun id x delivers => absurd delivers not_delivers_start⟩
  | wait h later ih => exact ih
  | act h act ih =>
    obtain ⟨hconfig, ih⟩ := ih
    refine ⟨act.acted.config_eq.trans hconfig, fun id x delivers => ?_⟩
    cases act.acted.change delivers with
    | none found => exact ih id x found
    | begin c payload => exact hconfig ▸ .begin _ payload c _
    | resume found running => exact .resume (ih id _ found) running _ _
    | drop found running => exact .drop (ih id _ found) running _ _

end Relaying
end RelayGateway
