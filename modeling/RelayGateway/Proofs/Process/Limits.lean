import RelayGateway.Proofs.Gateway.Fallbacks
import RelayGateway.Proofs.Gateway.Feedback
import RelayGateway.Proofs.Relay.Deadline

/-! # What the parts of a gateway can take

The parts that a gateway is built of have limits of their own: a gate holds so many permits, a store
keeps its entries for so many years, and the clock ends. The time that a request may take by default
can never lead past the end of the clock, since it is a word of milliseconds. Four other settings can
ask for too much, and a valid configuration may hold any positive number in them: validation looks for
zeros and for nothing else in a number.
-/
namespace RelayGateway
open Relation

namespace Limits

def permits : Nat := (wordBound - 1) / 8

/-- The longest lifetime of what a store keeps: a thousand years, in seconds. -/
def retention : Nat := 1000 * 365 * 24 * 60 * 60

/-- The moment at which the clock ends, which counts its seconds with one bit less than a word. -/
def clockEnd : Nat := wordBound / 2 * 1000

end Limits

/-! ## Moments that are stored -/

namespace ExpiringMap
variable {κ ν : Type} [DecidableEq κ] {m : ExpiringMap κ ν} {now bound : Nat}

def ExpiresBy (m : ExpiringMap κ ν) (bound : Nat) : Prop :=
  ∀ k e, m.entries.find? k = some e → e.2 ≤ bound

theorem ExpiresBy.mono (h : m.ExpiresBy bound) {later : Nat} (hle : bound ≤ later) :
    m.ExpiresBy later :=
  fun k e he => Nat.le_trans (h k e he) hle

theorem ExpiresBy.insert (h : m.ExpiresBy (now + m.ttl)) (k : κ) (v : ν) :
    (m.insert now k v).ExpiresBy (now + m.ttl) := by
  intro x e he
  rw [ExpiringMap.insert, Table.find?_insert] at he
  split at he
  · cases he
    exact Nat.le_refl _
  · exact h x e he

theorem ExpiresBy.afterRead (h : m.ExpiresBy bound) (k : κ) : (m.afterRead now k).ExpiresBy bound := by
  intro x e he
  rw [find?_entries_afterRead] at he
  split at he
  · exact h x e (Option.filter_eq_some_iff.1 he).1
  · exact h x e he

theorem ExpiresBy.sweep (h : m.ExpiresBy bound) : (m.sweep now).ExpiresBy bound := by
  intro k e he
  rw [find?_entries_sweep] at he
  exact h k e (Option.filter_eq_some_iff.1 he).1

end ExpiringMap

namespace SanctionStore
variable {s : SanctionStore} {now bound : Nat}

theorem expiresBy_record (h : s.session.ExpiresBy (now + s.session.ttl)) (o : EndpointObservation) :
    (record now s o).session.ExpiresBy (now + s.session.ttl) := by
  unfold record
  split
  · exact h
  · dsimp only
    split
    · exact h
    · exact h.insert o.sanctionKey _
    · exact h

theorem expiresBy_apply (h : s.session.ExpiresBy (now + s.session.ttl))
    (os : List EndpointObservation) :
    (s.applyObservations now os).session.ExpiresBy (now + s.session.ttl) := by
  unfold applyObservations
  induction os generalizing s with
  | nil => exact h
  | cons o rest ih =>
    have hrecord := expiresBy_record h o
    have httl : (record now s o).session.ttl = s.session.ttl := ttl_record
    rw [← httl] at hrecord ⊢
    exact ih hrecord

theorem expiresBy_check (h : s.session.ExpiresBy bound) (e : Endpoint) :
    (afterCheck now s e).session.ExpiresBy bound := by
  unfold afterCheck
  split
  · exact h.afterRead _
  · exact h

theorem expiresBy_react (h : s.session.ExpiresBy (now + s.session.ttl)) (event : Event) :
    (s.react now event).session.ExpiresBy (now + s.session.ttl) := by
  cases event with
  | apply observations => exact expiresBy_apply h observations
  | check e => exact expiresBy_check h e
  | filter candidates =>
    exact List.foldlRecOn
      (motive := fun s' : SanctionStore => s'.session.ExpiresBy (now + s.session.ttl))
      candidates.values (afterCheck now) h fun _ hs' e _ => expiresBy_check hs' e
  | sweep => exact h.sweep
  | wait span => exact h
  | clear => exact fun key e he => nomatch he

end SanctionStore

namespace Operation
variable {ω : Type} [Collaborators ω] {config : GatewayConfig} {o o' : Operation ω}

/-- The clock never goes back. -/
theorem Move.now_le (move : Move o o') : o.now ≤ o'.now := by
  cases move with
  | turn => exact Nat.le_of_eq (Schedule.now_step World.run o).symm
  | ring t later => exact later
  | wait t => exact Nat.le_max_left ..
  | _ => exact Nat.le_refl _

/-- No session sanction is stored for longer than it is configured. -/
theorem Reachable.expiresBy (h : Reachable config o) :
    o.gateway.sanctions.session.ExpiresBy (o.now + config.sanctions.sessionTtl) := by
  rw [← h.ttl_eq]
  obtain ⟨outside, hmoves⟩ := h
  induction hmoves with
  | refl => exact fun key e he => nomatch he
  | @tail o o' _ move ih =>
    have hchanges := move.changes
    have hle := move.now_le
    generalize o'.now = now' at hle
    generalize o'.gateway = g at hchanges ⊢
    suffices g.sanctions.session.ExpiresBy (o.now + g.sanctions.session.ttl) from
      this.mono (Nat.add_le_add_right hle _)
    induction hchanges with
    | refl => exact ih
    | tail _ hchange ih =>
      obtain ⟨event, hevent⟩ := hchange.reacts
      rw [hevent, SanctionStore.ttl_react]
      exact SanctionStore.expiresBy_react ih event

/-- The settings of the relays are those of the configuration. -/
theorem Reachable.relayConfig_eq (h : Reachable config o) : o.gateway.relayConfig = config.relay := by
  refine h.invariant (p := fun g => g.relayConfig = config.relay) (fun _ => rfl) ?_
  intro now g g' hchange hg
  rw [← hg]
  cases hchange with
  | build service m =>
    unfold Gateway.buildContext Gateway.afterOffer
    dsimp only
    split <;> split <;> rfl
  | _ => rfl

end Operation

/-! ## Staying within the limits -/

namespace GatewayConfig
variable {ω : Type} [Collaborators ω] {config : GatewayConfig} {outside : ω} {start till : Nat}

/-- No session sanction that is stored until the clock shows `till` expires after the end of the clock.
The clock has shown `start` when the gateway was built. -/
def SanctionsInTime (ω : Type) [Collaborators ω] (config : GatewayConfig) (start till : Nat) : Prop :=
  ∀ o : Operation ω, Operation.Reachable config o → start + o.now ≤ till →
    ∀ key e, o.gateway.sanctions.session.entries.find? key = some e → start + e.2 < Limits.clockEnd

/-- No deadline of a request that leaves its time to the gateway lies after the end of the clock, and
neither does that of the attempt which it begins with. -/
def DeadlinesInTime (ω : Type) [Collaborators ω] (config : GatewayConfig) (start till : Nat) : Prop :=
  ∀ o : Operation ω, Operation.Reachable config o → start + o.now ≤ till →
    ∀ payload : RelayPayload, payload.timeout = none →
      start + (o.now + Dispatch.timeoutOf o.gateway.relayConfig payload) < Limits.clockEnd ∧
      ∀ c e, start + (Dispatch.first o.gateway.relayConfig o.now payload c e).1.deadline <
        Limits.clockEnd

/-- The gateway asks none of its parts for more than they can take. -/
structure Sustains (config : GatewayConfig) (outside : ω) (start till : Nat) : Prop where
  permits : (Gateway.new config outside).limiter.capacity ≤ Limits.permits
  signatures : (Gateway.new config outside).signatures.config.ttlSeconds ≤ Limits.retention
  lookups : (Gateway.new config outside).cache.config.refreshInterval ≤ Limits.retention * 1000
  sanctions : SanctionsInTime ω config start till
  deadlines : DeadlinesInTime ω config start till

structure Bounded (config : GatewayConfig) (till : Nat) : Prop where
  permits : config.relay.concurrencyLimit ≤ Limits.permits
  signatures : config.signatureCache.ttlSeconds ≤ Limits.retention
  lookups : config.cacheManager.refreshIntervalSeconds ≤ Limits.retention
  sanctions : till + config.sanctions.sessionTtl < Limits.clockEnd

def asking (config : GatewayConfig) (permits signatures lookups sanctions : Nat) : GatewayConfig :=
  { config with
    relay := { config.relay with concurrencyLimit := permits }
    signatureCache := { config.signatureCache with ttlSeconds := signatures }
    cacheManager := { config.cacheManager with refreshIntervalSeconds := lookups }
    sanctions := { config.sanctions with sessionTtlSeconds := sanctions } }

omit [Collaborators ω] in
theorem permits_iff :
    (Gateway.new config outside).limiter.capacity ≤ Limits.permits ↔
      config.relay.concurrencyLimit ≤ Limits.permits := by
  have hcapacity : (Gateway.new config outside).limiter.capacity =
      max 1 config.relay.concurrencyLimit := rfl
  have hone : 1 ≤ Limits.permits := by decide
  rw [hcapacity, Nat.max_le, and_iff_right hone]

omit [Collaborators ω] in
theorem lookups_iff :
    (Gateway.new config outside).cache.config.refreshInterval ≤ Limits.retention * 1000 ↔
      config.cacheManager.refreshIntervalSeconds ≤ Limits.retention := by
  have hinterval : (Gateway.new config outside).cache.config.refreshInterval =
      max 1 config.cacheManager.refreshIntervalSeconds * 1000 := rfl
  have hone : 1 ≤ Limits.retention := by decide
  rw [hinterval, Nat.mul_le_mul_right_iff (by decide), Nat.max_le, and_iff_right hone]

/-- At any time a sanction can be stored that lasts for as long as it is configured. -/
theorem sanction_at (config : GatewayConfig) (outside : ω) (now : Nat) :
    ∃ o : Operation ω, Operation.Reachable config o ∧ o.now = now ∧ ∃ key sanction,
      o.gateway.sanctions.session.entries.find? key =
        some (sanction, now + config.sanctions.sessionTtl) := by
  let fault : EndpointObservation :=
    { (default : EndpointObservation) with isFallback := false, recommendedSanction := some .session }
  let waited : Operation ω := { Operation.begin config outside with now := max 0 now }
  have hwaited : Operation.Reachable config waited :=
    (Operation.Reachable.begin config outside).move (.wait now)
  have hnow : waited.now = now := Nat.zero_max now
  refine ⟨waited.applyObservations { (default : RequestObservations) with endpointObservations := [fault] },
    hwaited.steps (Operation.steps_applyObservations _ _), hnow, fault.sanctionKey,
    Sanction.ofObservation fault (Timestamp.ofMillis now), ?_⟩
  rw [← hnow]
  exact Table.find?_insert_self ..

theorem sanctionsInTime_iff (outside : ω) (begun : start ≤ till) :
    SanctionsInTime ω config start till ↔ till + config.sanctions.sessionTtl < Limits.clockEnd := by
  constructor
  · intro h
    obtain ⟨o, hreachable, hnow, key, sanction, hstored⟩ := sanction_at config outside (till - start)
    have hlast : start + o.now = till := by omega
    have hexpiry := h o hreachable (Nat.le_of_eq hlast) key _ hstored
    dsimp only at hexpiry
    omega
  · intro h o hreachable hlast key e hstored
    have hexpiry := hreachable.expiresBy key e hstored
    omega

theorem deadlinesInTime (words : config.relay.defaultTimeout < wordBound)
    (early : till + wordBound ≤ Limits.clockEnd) : DeadlinesInTime ω config start till := by
  intro o hreachable hlast payload hdefault
  have htimeout : Dispatch.timeoutOf o.gateway.relayConfig payload = config.relay.defaultTimeout := by
    rw [Dispatch.timeoutOf, hdefault, hreachable.relayConfig_eq]
    rfl
  have hrequest : start + (o.now + Dispatch.timeoutOf o.gateway.relayConfig payload) <
      Limits.clockEnd := by omega
  refine ⟨hrequest, fun c e => Nat.lt_of_le_of_lt (Nat.add_le_add_left ?_ start) hrequest⟩
  exact (Dispatch.deadline_first ..).1

/-- A check finds nothing when it passes and those after it find nothing. -/
theorem check_eq_none_iff {p : Prop} [Decidable p] {fault : String} {rest : Option String} :
    (if p then some fault else rest) = none ↔ ¬ p ∧ rest = none := by
  split <;> simp [*]

theorem settingsFault?_eq_none_iff : config.settingsFault? = none ↔
    0 < config.cacheManager.refreshIntervalSeconds ∧ 0 < config.cacheManager.sessionWorkers ∧
      (0 < config.sanctions.sessionTtlSeconds ∧ 0 < config.sanctions.sweepIntervalSeconds) ∧
        (config.signatureCache.enabled = true → 0 < config.signatureCache.ttlSeconds) ∧
          0 < config.rollover.pollIntervalSeconds ∧ 0 < config.relay.concurrencyLimit ∧
            0 < config.relay.defaultTimeout ∧ ["json", "pretty"].contains config.logging.format = true := by
  unfold settingsFault?
  simp only [check_eq_none_iff, Nat.pos_iff_ne_zero, not_or, not_and, ite_eq_left_iff, reduceCtorEq,
    imp_false, not_not, ne_eq]

/-- Validation is content with any positive numbers. -/
theorem valid_asking (valid : config.fault? = none) {permits signatures lookups sanctions : Nat}
    (some_permits : 0 < permits) (some_signatures : 0 < signatures) (some_lookups : 0 < lookups)
    (some_sanctions : 0 < sanctions) :
    (config.asking permits signatures lookups sanctions).fault? = none := by
  obtain ⟨hname, hfallbacks, hsettings⟩ := fault?_eq_none_iff.1 valid
  obtain ⟨-, hworkers, ⟨-, hsweep⟩, -, hpoll, -, htimeout, hformat⟩ :=
    settingsFault?_eq_none_iff.1 hsettings
  refine fault?_eq_none_iff.2 ⟨hname, hfallbacks, settingsFault?_eq_none_iff.2 ?_⟩
  exact ⟨some_lookups, hworkers, ⟨some_sanctions, hsweep⟩, fun _ => some_signatures, hpoll,
    some_permits, htimeout, hformat⟩

/-- A valid configuration never leads a deadline past the end of the clock. It stays within the other
limits exactly when four of its settings do, and that it is valid says nothing about these. -/
theorem limits_of_valid (outside : ω) (valid : config.fault? = none)
    (words : config.relay.defaultTimeout < wordBound) (begun : start ≤ till)
    (early : till + wordBound ≤ Limits.clockEnd) :
    DeadlinesInTime ω config start till ∧ (config.Sustains outside start till ↔ config.Bounded till) ∧
      ∀ permits signatures lookups sanctions, 0 < permits → 0 < signatures → 0 < lookups →
        0 < sanctions → (config.asking permits signatures lookups sanctions).fault? = none := by
  have hdeadlines : DeadlinesInTime ω config start till := deadlinesInTime words early
  refine ⟨hdeadlines, ⟨fun h => ?_, fun h => ?_⟩, fun _ _ _ _ => valid_asking valid⟩
  · exact ⟨permits_iff.1 h.permits, h.signatures, lookups_iff.1 h.lookups,
      (sanctionsInTime_iff outside begun).1 h.sanctions⟩
  · exact ⟨permits_iff.2 h.permits, h.signatures, lookups_iff.2 h.lookups,
      (sanctionsInTime_iff outside begun).2 h.sanctions, hdeadlines⟩

/-! ### The default, and a configuration that asks for too much -/

/-- The default configuration stays within the limits for a million years. -/
theorem sustains_default :
    let till := 1000000 * 365 * 24 * 60 * 60 * 1000
    (default : GatewayConfig).fault? = none ∧
    (default : GatewayConfig).relay.defaultTimeout < wordBound ∧
    till + wordBound ≤ Limits.clockEnd ∧
    (default : GatewayConfig).Sustains (default : Script) 0 till := by
  intro till
  have hvalid : (default : GatewayConfig).fault? = none := by decide +kernel
  have hiff : (default : GatewayConfig).Sustains (default : Script) 0 till ↔
      (default : GatewayConfig).Bounded till :=
    (limits_of_valid default hvalid (by decide) (Nat.zero_le till) (by decide)).2.1
  exact ⟨hvalid, by decide, by decide, hiff.2 ⟨by decide, by decide, by decide, by decide⟩⟩

def greedy : GatewayConfig :=
  (default : GatewayConfig).asking (wordBound - 1) (wordBound - 1) (wordBound - 1) (wordBound - 1)

/-- It is valid, and asks each of the four parts for too much, the store of sanctions from the very first
moment on. -/
theorem greedy_exceeds : greedy.fault? = none ∧
    Limits.permits < (Gateway.new greedy (default : Script)).limiter.capacity ∧
    Limits.retention < (Gateway.new greedy (default : Script)).signatures.config.ttlSeconds ∧
    Limits.retention * 1000 < (Gateway.new greedy (default : Script)).cache.config.refreshInterval ∧
    ¬ SanctionsInTime Script greedy 0 0 := by
  refine ⟨by decide +kernel, by decide, by decide, by decide, ?_⟩
  rw [sanctionsInTime_iff default (Nat.le_refl 0)]
  decide

end GatewayConfig
end RelayGateway
