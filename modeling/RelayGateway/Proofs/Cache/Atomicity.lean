import RelayGateway.Proofs.Cache.Traffic
import RelayGateway.Script

/-! # Snapshots are published whole

However refreshes and queries interleave, a snapshot comes from one refresh alone, and calls that fail
change neither the snapshot nor what the monitor knows.
-/
namespace RelayGateway
open Relation

namespace Traffic
variable {ω : Type} [Collaborators ω] {config : GatewayConfig} {t : Traffic ω}

def Unchanged (turn : ChainTurn ω) : Prop :=
  turn.after.cache.snapshot = turn.before.cache.snapshot ∧ turn.after.rollover = turn.before.rollover

omit [Collaborators ω] in
theorem unchanged_of_quiet {turn : ChainTurn ω} (h : turn.before.Quiet turn.after) : Unchanged turn :=
  ⟨h.cache.snapshot, h.rollover⟩

/-- In every state the snapshot is the empty one or that of a single refresh, and no call that has
failed has changed it or the monitor in any of its turns. -/
theorem Reached.atomic (h : Reached config t) :
    (t.snapshot = Snapshot.empty ∨ ∃ id turns last stats apps events,
      t.refreshes.find? id = some ⟨turns, .done (.ok stats)⟩ ∧
        Refresh.Built config.cacheManager turns last apps events t.snapshot) ∧
      (∀ id turns e, t.refreshes.find? id = some ⟨turns, .done (.error e)⟩ →
        ∀ turn ∈ turns, Unchanged turn) ∧
      ∀ id target turns e, t.queries.find? id = some ⟨target, turns, .done (.error e)⟩ →
        ∀ turn ∈ turns, Unchanged turn := by
  have hsound := h.sound
  refine ⟨?_, ?_, ?_⟩
  · rcases hsound.published with hblank | hpublished
    · exact .inl hblank.snapshot
    · exact .inr (hsound.built hpublished)
  · intro id turns e hfind turn hturn
    exact unchanged_of_quiet ((hsound.refreshes id _ hfind).quiet (fun _ => nofun) turn hturn)
  · intro id target turns e hfind turn hturn
    exact unchanged_of_quiet ((hsound.queries id _ hfind).quiet (fun _ => nofun) turn hturn)

section Example

def exampleApp : Application := ⟨"app", "key", ["eth"]⟩

def exampleSession : Session :=
  ⟨⟨"session", "eth", "app", 1, 5⟩, some exampleApp, [⟨"node", [⟨.jsonRpc, "https://node"⟩]⟩]⟩

def exampleScript : Script :=
  { (default : Script) with
    chain := { (default : ChainScript) with
      apps := [exampleApp], sessions := [⟨"eth", "app", some exampleSession, none, some 20⟩] } }

/-- Two refreshes overlap, and a query fails between their turns. -/
def exampleTraffic : Traffic Script :=
  ((((begin default exampleScript).refresh 0 0).refresh 10 1).query 15 0 (.session "eth" "other")
    |>.refresh 20 0).refresh 30 1

def stats? : RefreshProgress → Option RefreshStats
  | .done (.ok stats) => some stats
  | _ => none

def error? : QueryProgress → Option CacheError
  | .done (.error e) => some e
  | _ => none

/-- Both refreshes succeed; the reader sees the snapshot of the one that has ended last. -/
theorem atomic_overlapping :
    Reached default exampleTraffic ∧
      exampleTraffic.refreshes.entries.map (fun x => (x.1, stats? x.2.progress)) =
        [(0, some ⟨1, 1, 1, 1, 0⟩), (1, some ⟨1, 1, 1, 1, 0⟩)] ∧
      exampleTraffic.queries.values.map (fun call => error? call.progress) =
        [some (.sessionLookup "eth" "other" (.notFound "eth:other"))] ∧
      exampleTraffic.snapshot.refreshedAt = some (Timestamp.ofMillis 30) ∧
      ∃ id turns last stats apps events,
        exampleTraffic.refreshes.find? id = some ⟨turns, .done (.ok stats)⟩ ∧
          Refresh.Built (default : GatewayConfig).cacheManager turns last apps events
            exampleTraffic.snapshot := by
  have hreached : Reached default exampleTraffic :=
    (((((Reached.begin default exampleScript).refresh 0 0).refresh 10 1).query 15 0 _).refresh 20 0
      |>.refresh 30 1)
  have htime : exampleTraffic.snapshot.refreshedAt = some (Timestamp.ofMillis 30) := by decide +kernel
  refine ⟨hreached, by decide +kernel, by decide +kernel, htime, hreached.atomic.1.resolve_left ?_⟩
  intro hempty
  rw [hempty] at htime
  cases htime

end Example

end Traffic
end RelayGateway
