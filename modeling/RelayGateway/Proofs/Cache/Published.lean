import Mathlib.Data.List.Permutation
import RelayGateway.Proofs.Cache.Ending
import RelayGateway.Script

/-! # What a refresh publishes

A refresh over listed applications looks every session up once, with a bounded number of lookups in
flight. When all have ended, what it publishes depends on what they have brought, not on the order in
which they came.
-/
namespace RelayGateway
variable {ω : Type} [Collaborators ω]

namespace Refresh
open RoundEvent
variable {config : CacheConfig} {turns : List (ChainTurn ω)} {progress : RefreshProgress}
variable {apps : List Application} {events : List RoundEvent} {r : SessionRound}

structure Counts (stats : RefreshStats) (apps : List Application) (events : List RoundEvent)
    (fetched : List (SessionJob × Session)) : Prop where
  apps : stats.apps = apps.length
  attempted : stats.sessionsAttempted = (lookups events).length
  found : stats.sessionsFetched = fetched.length
  endpoints : stats.endpoints + stats.duplicateEndpoints =
    (fetched.map fun x => (x.2.endpoints none).size).sum

/-- A round that is not finished waits for a lookup that is neither answered nor overdue. -/
theorem Gathers.inFlight {now : Nat} (h : Gathers config turns apps events r)
    (settled : SessionRound.Settled now config.workers r)
    (unfinished : r.running ≠ [] ∨ r.waiting ≠ []) :
    ∃ lookup ∈ lookups events, lookup ∉ ends events ∧ lookup.outcome now = .running := by
  have hrunning := settled.busy config.workers_pos unfinished
  obtain ⟨lookup, hlookup⟩ := List.exists_mem_of_ne_nil _ hrunning
  have hdistinct : (lookups events).Nodup :=
    List.Pairwise.of_map RunningJob.job (fun _ _ hne heq => hne (congrArg _ heq)) h.orderly.once
  have hnodup := h.account.flight.nodup_iff.1 hdistinct
  refine ⟨lookup, h.account.flight.mem_iff.2 (List.mem_append_left _ hlookup), ?_,
    settled.inTime lookup hlookup⟩
  intro hended
  exact (List.nodup_append.1 hnodup).2.2 lookup hlookup lookup hended rfl

/-- What the sessions make up is the same in any order, shows them all and counts them all. -/
theorem Gathers.published {fetched : List (SessionJob × Session)}
    (h : Gathers config turns apps events ⟨[], [], sessions events⟩)
    (hperm : fetched.Perm (sessions events)) (now : Nat) :
    Snapshot.assemble (sessions events) = Snapshot.assemble fetched ∧
      (Snapshot.built now apps fetched).Shows apps fetched ∧
        Counts (statsOf apps (Snapshot.assemble fetched)) apps events fetched := by
  have hnodup := (hperm.map Prod.fst).nodup_iff.2
    (h.account.nodup_sessions (SessionJob.nodup_ofApps apps))
  have hjobs := h.account.jobs
  rw [List.append_nil] at hjobs
  refine ⟨(Snapshot.assemble_eq_of_perm hnodup hperm).symm, Snapshot.shows_built hnodup now apps,
    rfl, ?_, Snapshot.size_sessions hnodup, Snapshot.count_assemble fetched⟩
  unfold statsOf
  dsimp only
  rw [← hjobs, List.length_map]

/-- What a refresh over listed applications does. It looks up every pair once; it waits on only for a
lookup that is neither answered nor overdue; and when all have ended and there are sessions, it has
published what these make up in any order, and counted them. It ends if it takes its turns. -/
structure Refreshes (config : CacheConfig) (turns : List (ChainTurn ω)) (apps : List Application)
    (progress : RefreshProgress) : Prop where
  course : ∃ events last, Happened config.fetchTimeout turns events ∧ turns.getLast? = some last ∧
    Orderly apps (max 1 config.sessionWorkers) events ∧
    (((∃ stage, progress = .waiting stage) ∧
        ∃ lookup ∈ lookups events, lookup ∉ ends events ∧ lookup.outcome last.now = .running) ∨
      Complete apps events ∧ (sessions events ≠ [] → ∃ stats, progress = .done (.ok stats) ∧
        ∀ fetched, fetched.Perm (sessions events) →
          last.after.cache.snapshot = Snapshot.built last.now apps fetched ∧
          (Snapshot.built last.now apps fetched).Shows apps fetched ∧
          stats = statsOf apps (Snapshot.assemble fetched) ∧ Counts stats apps events fetched))
  ended : Patient config.fetchTimeout turns → (SessionJob.ofApps apps).length + 2 ≤ turns.length →
    ∃ result, progress = .done result

/-- A refresh over listed applications is a function of what the chain has answered. -/
theorem Course.refreshes (h : Course config turns progress) (hlisted : Listed (.ok apps) turns)
    (hsome : apps ≠ []) : Refreshes config turns apps progress := by
  refine ⟨?_, fun patient hturns => h.ends patient hlisted hturns⟩
  cases h.stands with
  | listing lists unanswered happened quiet =>
    obtain ⟨answer, hlists, turn, hturn, hready⟩ := hlisted
    rw [← lists.unique hlists, unanswered turn hturn] at hready
    cases hready
  | unlisted unlisted quiet => exact absurd (unlisted apps hlisted) hsome
  | gathering gathers last settled unfinished quiet =>
    cases gathers.listed.unique hlisted
    exact ⟨_, _, gathers.happened, last, gathers.orderly,
      .inl ⟨⟨_, rfl⟩, gathers.inFlight settled unfinished⟩⟩
  | failed gathers quiet =>
    cases gathers.listed.unique hlisted
    obtain ⟨last, hlast⟩ := hlisted.getLast?
    refine ⟨_, last, gathers.happened, hlast, gathers.orderly, .inr ⟨gathers.complete, ?_⟩⟩
    intro hsessions
    exact absurd gathers.account.fetched.symm hsessions
  | refreshed gathers fetched split publishes quiet =>
    cases gathers.listed.unique hlisted
    refine ⟨_, _, gathers.happened, split ▸ List.getLast?_concat, gathers.orderly,
      .inr ⟨gathers.complete, fun _ => ⟨_, rfl, ?_⟩⟩⟩
    intro fetched hperm
    obtain ⟨hsame, hshows, hcounts⟩ := gathers.published hperm _
    rw [hsame]
    refine ⟨publishes.snapshot.trans ?_, hshows, rfl, hcounts⟩
    unfold Snapshot.built
    rw [hsame]

section Example

def exampleApps : List Application := [⟨"app2", "", ["eth"]⟩, ⟨"app1", "", ["eth"]⟩]

def exampleSession (app : String) : Session :=
  ⟨⟨"session of " ++ app, "eth", app, 1, 60⟩, none,
    [⟨"node", [⟨.jsonRpc, "https://node"⟩]⟩, ⟨app, [⟨.jsonRpc, "https://own"⟩]⟩]⟩

def exampleScript : Script :=
  { (default : Script) with
    chain := { (default : ChainScript) with
      apps := exampleApps
      sessions := [⟨"eth", "app1", some (exampleSession "app1"), none, some 20⟩,
        ⟨"eth", "app2", some (exampleSession "app2"), none, some 10⟩] } }

def exampleView : ChainView Script := ⟨SessionCache.new default, none, exampleScript, []⟩

/-- The session of the second application comes first, and the order of the list does not matter
either. -/
theorem refreshes_out_of_order :
    Refreshes default (alone exampleView 0 [20, 10]).1 exampleApps
        (alone exampleView 0 [20, 10]).2.2 ∧
      (alone exampleView 0 [20, 10]).2.2 = .done (.ok (statsOf exampleApps (Snapshot.assemble
        [(⟨"eth", "app2"⟩, exampleSession "app2"), (⟨"eth", "app1"⟩, exampleSession "app1")]))) := by
  refine ⟨(course_alone exampleView 0 [20, 10]).1.refreshes (listed_alone _ _ _ rfl) nofun, ?_⟩
  have hjobs : SessionJob.ofApps exampleApps = [⟨"eth", "app1"⟩, ⟨"eth", "app2"⟩] := by cbv
  have hstart : start 0 exampleView = gather 0 exampleApps
      { exampleView with
        cache := { exampleView.cache with appsSeen := true }
        outside := (Collaborators.fetchApps 0 exampleScript).2 }
      ⟨SessionJob.ofApps exampleApps, [], []⟩ := rfl
  rw [hjobs] at hstart
  simp only [alone, hstart]
  rfl

end Example

end Refresh
end RelayGateway
