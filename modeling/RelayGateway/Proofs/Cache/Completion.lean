import RelayGateway.Proofs.Cache.Traffic
import RelayGateway.Script

/-! # How a query for a session is answered

A session that the snapshot holds is handed out as a refresh has fetched it. Any other session is asked
for on the chain and completed: a query for its application and one for the public key of that
application run inside the query for the session, and their failures are its failures.
-/
namespace RelayGateway
open Relation

variable {ω : Type}

/-- The settings and what a query for the target looks up in the cache are the same. -/
def QueryTarget.Sees : QueryTarget → SessionCache → SessionCache → Prop
  | .app _, c, c' => c'.config = c.config ∧ c'.snapshot = c.snapshot ∧ c'.appLookups = c.appLookups
  | .key _, c, c' => c'.config = c.config ∧ c'.publicKeys = c.publicKeys
  | .session .., c, c' => c' = c

namespace Query
variable [Collaborators ω] {id : ProcessId} {target : QueryTarget} {service : ServiceId} {app : String}
variable {turns more : List (ChainTurn ω)} {turn last : ChainTurn ω} {v : ChainView ω}
variable {progress : QueryProgress} {asked session : Session} {given : Application}

/-! ## Courses -/

inductive Course (id : ProcessId) (target : QueryTarget) : List (ChainTurn ω) → QueryProgress → Prop
  | start (now : Nat) (v : ChainView ω) :
      Course id target [⟨now, v, (World.startQuery now id target v).1⟩]
        (World.startQuery now id target v).2
  | resume {turns : List (ChainTurn ω)} {stage : QueryStage}
      (course : Course id target turns (.waiting stage)) (now : Nat) (v : ChainView ω) :
      Course id target (turns ++ [⟨now, v, (resume now id v stage).1⟩]) (resume now id v stage).2

def Inside (id : ProcessId) (target : QueryTarget) (turns : List (ChainTurn ω))
    (progress : QueryProgress) : Prop :=
  ∃ parts : List (ChainTurn ω), Course id target parts progress ∧
    ∀ part ∈ parts, ∃ turn ∈ turns, part.now = turn.now ∧
      target.Sees turn.before.cache part.before.cache

theorem Inside.start (hturn : turn ∈ turns) (sees : target.Sees turn.before.cache v.cache) :
    Inside id target turns (World.startQuery turn.now id target v).2 := by
  refine ⟨_, .start turn.now v, ?_⟩
  intro part hpart
  rw [List.mem_singleton.1 hpart]
  exact ⟨turn, hturn, rfl, sees⟩

theorem Inside.resume {stage : QueryStage} (h : Inside id target turns (.waiting stage))
    (hturn : turn ∈ turns) (sees : target.Sees turn.before.cache v.cache) :
    Inside id target turns (resume turn.now id v stage).2 := by
  obtain ⟨parts, hcourse, hparts⟩ := h
  refine ⟨_, hcourse.resume turn.now v, ?_⟩
  intro part hpart
  rcases List.mem_append.1 hpart with hearlier | hlast
  · exact hparts part hearlier
  · rw [List.mem_singleton.1 hlast]
    exact ⟨turn, hturn, rfl, sees⟩

theorem Inside.append (h : Inside id target turns progress) (more : List (ChainTurn ω)) :
    Inside id target (turns ++ more) progress := by
  obtain ⟨parts, hcourse, hparts⟩ := h
  refine ⟨parts, hcourse, ?_⟩
  intro part hpart
  obtain ⟨turn, hturn, hsame⟩ := hparts part hpart
  exact ⟨turn, List.mem_append_left _ hturn, hsame⟩

/-! ## What a query for a session has come to -/

/-- The first turn misses the snapshot and asks the chain, which decides on this answer. -/
def Asks (service : ServiceId) (app : String) (answer : Pending (Except ChainError Session))
    (turns : List (ChainTurn ω)) : Prop :=
  ∃ first, turns.head? = some first ∧ first.before.cache.snapshot.session? service app = none ∧
    (Collaborators.fetchSession first.now service app first.before.outside).1 = answer

def Fetches (service : ServiceId) (app : String) (result : Except ChainError Session)
    (turns : List (ChainTurn ω)) : Prop :=
  ∃ answer, Asks service app answer turns ∧ ∃ turn ∈ turns, answer.ready? turn.now = some result

/-- The application of a fetched session: its own, or what a query for the application finds. -/
def Resolves (id : ProcessId) (turns : List (ChainTurn ω)) (asked : Session) (given : Application) :
    Prop :=
  asked.application = some given ∨ asked.application = none ∧
    Inside id (.app asked.appAddress) turns (.done (.ok (.app given)))

def Keys (id : ProcessId) (turns : List (ChainTurn ω)) (given : Application) (key : String) : Prop :=
  given.publicKey ≠ "" ∧ key = given.publicKey ∨
    given.publicKey = "" ∧ Inside id (.key given.address) turns (.done (.ok (.key key)))

/-- The session is the one that the chain has given, with its application and the key of that. -/
def Completed (id : ProcessId) (service : ServiceId) (app : String) (turns : List (ChainTurn ω))
    (session : Session) : Prop :=
  ∃ asked given key, Fetches service app (.ok asked) turns ∧ Resolves id turns asked given ∧
    Keys id turns given key ∧
    session = { asked with application := some { given with publicKey := key } }

inductive Stands (id : ProcessId) (service : ServiceId) (app : String) (turns : List (ChainTurn ω)) :
    QueryProgress → Prop
  | asking {answer : Pending (Except ChainError Session)} {deadline : Nat}
      (asks : Asks service app answer turns) :
      Stands id service app turns (.waiting (.session service app answer deadline))
  | resolving {asked : Session} {wait : LookupWait Application}
      (fetches : Fetches service app (.ok asked) turns) (bare : asked.application = none)
      (inside : Inside id (.app asked.appAddress) turns (.waiting (.app asked.appAddress wait))) :
      Stands id service app turns (.waiting (.sessionApp asked wait))
  | keying {asked : Session} {given : Application} {wait : LookupWait String}
      (fetches : Fetches service app (.ok asked) turns) (resolves : Resolves id turns asked given)
      (keyless : given.publicKey = "")
      (inside : Inside id (.key given.address) turns (.waiting (.key given.address wait))) :
      Stands id service app turns (.waiting (.sessionKey asked given wait))
  | held {turn : ChainTurn ω} {session : Session} (only : turns = [turn])
      (found : turn.before.cache.snapshot.session? service app = some session) :
      Stands id service app turns (.done (.ok (.session session)))
  | completed {session : Session} (completed : Completed id service app turns session) :
      Stands id service app turns (.done (.ok (.session session)))
  | overdue {answer : Pending (Except ChainError Session)} {turn : ChainTurn ω} {seconds : Nat}
      (asks : Asks service app answer turns) (last : turn ∈ turns)
      (unanswered : answer.ready? turn.now = none) :
      Stands id service app turns (.done (.error (.timeout seconds)))
  | refused {e : ChainError} (fetches : Fetches service app (.error e) turns) :
      Stands id service app turns (.done (.error (.sessionLookup service app e)))
  | unresolved {asked : Session} {e : CacheError} (fetches : Fetches service app (.ok asked) turns)
      (bare : asked.application = none)
      (inside : Inside id (.app asked.appAddress) turns (.done (.error e))) :
      Stands id service app turns (.done (.error e))
  | keyless {asked : Session} {given : Application} {e : CacheError}
      (fetches : Fetches service app (.ok asked) turns) (resolves : Resolves id turns asked given)
      (keyless : given.publicKey = "") (inside : Inside id (.key given.address) turns (.done (.error e))) :
      Stands id service app turns (.done (.error e))

theorem Asks.append {answer : Pending (Except ChainError Session)} (h : Asks service app answer turns)
    (more : List (ChainTurn ω)) : Asks service app answer (turns ++ more) := by
  obtain ⟨first, hfirst, hmiss⟩ := h
  exact ⟨first, by rw [List.head?_append, hfirst]; rfl, hmiss⟩

theorem Fetches.append {result : Except ChainError Session} (h : Fetches service app result turns)
    (more : List (ChainTurn ω)) : Fetches service app result (turns ++ more) := by
  obtain ⟨answer, hasks, turn, hturn, hready⟩ := h
  exact ⟨answer, hasks.append more, turn, List.mem_append_left _ hturn, hready⟩

theorem Resolves.append (h : Resolves id turns asked given) (more : List (ChainTurn ω)) :
    Resolves id (turns ++ more) asked given :=
  h.imp_right fun h => ⟨h.1, h.2.append more⟩

/-! ## One turn -/

/-- A step of the key lookup takes the query on as it takes on a query for the key. -/
theorem stands_afterSessionKey {s : LookupStep ω String} (fetches : Fetches service app (.ok asked) turns)
    (resolves : Resolves id turns asked given) (keyless : given.publicKey = "")
    (inside : Inside id (.key given.address) turns (afterKey given.address v s).2) :
    Stands id service app turns (afterSessionKey asked given v s).2 := by
  unfold afterKey at inside
  unfold afterSessionKey
  generalize s.progress = progress at inside ⊢
  match progress with
  | .waiting wait => exact .keying fetches resolves keyless inside
  | .done (.ok key) => exact .completed ⟨asked, given, key, fetches, resolves, .inr ⟨keyless, inside⟩, rfl⟩
  | .done (.error e) => exact .keyless fetches resolves keyless inside

theorem stands_completeKey (hlast : last ∈ turns)
    (sees : (QueryTarget.key given.address).Sees last.before.cache v.cache)
    (fetches : Fetches service app (.ok asked) turns) (resolves : Resolves id turns asked given) :
    Stands id service app turns (completeKey last.now id asked given v).2 := by
  unfold completeKey
  by_cases hkey : given.publicKey = ""
  · rw [if_pos hkey]
    have hinside : Inside id (.key given.address) turns (getKey last.now id given.address v).2 :=
      .start hlast sees
    exact stands_afterSessionKey fetches resolves hkey hinside
  · rw [if_neg hkey]
    exact .completed ⟨asked, given, given.publicKey, fetches, resolves, .inl ⟨hkey, rfl⟩, rfl⟩

/-- A step of the application lookup takes the query on as it takes on a query for the application. -/
theorem stands_afterSessionApp {s : LookupStep ω Application} (hlast : last ∈ turns)
    (sees : ∀ address, (QueryTarget.key address).Sees last.before.cache v.cache)
    (fetches : Fetches service app (.ok asked) turns) (bare : asked.application = none)
    (inside : Inside id (.app asked.appAddress) turns (afterApp asked.appAddress v s).2) :
    Stands id service app turns (afterSessionApp last.now id asked v s).2 := by
  unfold afterApp at inside
  unfold afterSessionApp
  generalize s.progress = progress at inside ⊢
  match progress with
  | .waiting wait => exact .resolving fetches bare inside
  | .done (.ok given) => exact stands_completeKey hlast (sees given.address) fetches (.inr ⟨bare, inside⟩)
  | .done (.error e) => exact .unresolved fetches bare inside

theorem stands_complete (hlast : last ∈ turns) (same : v.cache = last.before.cache)
    (fetches : Fetches service app (.ok asked) turns) :
    Stands id service app turns (complete last.now id asked v).2 := by
  have hsees : ∀ address, (QueryTarget.key address).Sees last.before.cache v.cache :=
    fun _ => same ▸ ⟨rfl, rfl⟩
  unfold complete
  cases hbare : asked.application with
  | some given => exact stands_completeKey hlast (hsees given.address) fetches (.inl hbare)
  | none =>
    have hinside : Inside id (.app asked.appAddress) turns (getApp last.now id asked.appAddress v).2 :=
      .start hlast (same ▸ ⟨rfl, rfl, rfl⟩)
    unfold getApp at hinside
    dsimp only
    cases hfound : v.cache.snapshot.app? asked.appAddress with
    | some given =>
      rw [hfound] at hinside
      exact stands_completeKey hlast (hsees given.address) fetches (.inr ⟨hbare, hinside⟩)
    | none =>
      rw [hfound] at hinside
      exact stands_afterSessionApp hlast hsees fetches hbare hinside

theorem stands_awaitSession {answer : Pending (Except ChainError Session)} {deadline : Nat}
    (hlast : last ∈ turns) (same : v.cache = last.before.cache) (asks : Asks service app answer turns) :
    Stands id service app turns (awaitSession last.now id service app v answer deadline).2 := by
  unfold awaitSession
  cases hready : answer.ready? last.now with
  | none =>
    dsimp only
    by_cases hdue : deadline ≤ last.now
    · rw [if_pos hdue]
      exact .overdue asks hlast hready
    · rw [if_neg hdue]
      exact .asking asks
  | some result =>
    have hfetches : Fetches service app result turns := ⟨answer, asks, last, hlast, hready⟩
    cases result with
    | ok asked => exact stands_complete hlast same hfetches
    | error e => exact .refused hfetches

theorem stands_start {now : Nat} :
    Stands id service app [⟨now, v, (getSession now id service app v).1⟩]
      (getSession now id service app v).2 := by
  generalize (getSession now id service app v).1 = after
  unfold getSession
  cases hfound : v.cache.snapshot.session? service app with
  | some session => exact .held rfl hfound
  | none =>
    exact stands_awaitSession
      (v := { v with outside := (Collaborators.fetchSession now service app v.outside).2 })
      (List.mem_singleton_self ⟨now, v, after⟩) rfl ⟨_, rfl, hfound, rfl⟩

theorem stands_resume {stage : QueryStage} {now : Nat}
    (h : Stands id service app turns (.waiting stage)) :
    Stands id service app (turns ++ [⟨now, v, (resume now id v stage).1⟩]) (resume now id v stage).2 := by
  generalize (resume now id v stage).1 = after
  have hlast : (⟨now, v, after⟩ : ChainTurn ω) ∈ turns ++ [⟨now, v, after⟩] :=
    List.mem_append_right _ (List.mem_singleton_self _)
  cases h with
  | asking asks => exact stands_awaitSession hlast rfl (asks.append _)
  | resolving fetches bare inside =>
    have hinside := (inside.append [⟨now, v, after⟩]).resume hlast ⟨rfl, rfl, rfl⟩
    exact stands_afterSessionApp hlast (fun _ => ⟨rfl, rfl⟩) (fetches.append _) bare hinside
  | keying fetches resolves keyless inside =>
    have hinside := (inside.append [⟨now, v, after⟩]).resume hlast ⟨rfl, rfl⟩
    exact stands_afterSessionKey (fetches.append _) (resolves.append _) keyless hinside

/-- What a query for a session has come to follows from its turns. -/
theorem Course.stands (h : Course id (.session service app) turns progress) :
    Stands id service app turns progress := by
  generalize htarget : QueryTarget.session service app = target at h
  induction h with
  | start now v =>
    subst htarget
    exact stands_start
  | resume course now v ih => exact stands_resume ih

end Query

/-! ## Every query -/

namespace Traffic
variable [Collaborators ω] {config : GatewayConfig} {t t' : Traffic ω} {id : ProcessId} {s : Snapshot}

omit [Collaborators ω] in
theorem Published.takeRefresh {now : Nat} {turns : List (ChainTurn ω)}
    {step : ChainView ω × RefreshProgress} (h : Published t s)
    (free : ∀ turns stats, t.refreshes.find? id ≠ some ⟨turns, .done (.ok stats)⟩) :
    Published (t.takeRefresh now id turns step) s := by
  obtain ⟨id', turns', last, stats, hfind, hlast, hsnapshot⟩ := h
  have hne : id' ≠ id := by
    rintro rfl
    exact free turns' stats hfind
  exact ⟨id', turns', last, stats, (Table.find?_insert_of_ne _ hne _).trans hfind, hlast, hsnapshot⟩

/-- A refresh that has ended is never called again, so what it has published stays its own. -/
theorem Published.move (h : Published t s) (move : Move t t') : Published t' s := by
  cases move with
  | refresh now id fresh =>
    refine h.takeRefresh fun turns stats hfind => ?_
    rw [fresh] at hfind
    cases hfind
  | refreshOn now id waiting =>
    refine h.takeRefresh fun turns stats hfind => ?_
    rw [waiting] at hfind
    cases hfind
  | query now id target fresh => exact h
  | queryOn now id waiting => exact h
  | other quiet same => exact h

/-- A query has followed its course, and in each of its turns it has found what a refresh has published,
or nothing. -/
structure QueryCall.Traced (t : Traffic ω) (id : ProcessId) (call : QueryCall ω) : Prop where
  course : Query.Course id call.target call.turns call.progress
  found : ∀ turn ∈ call.turns, turn.before.cache.snapshot = Snapshot.empty ∨
    Published t turn.before.cache.snapshot

theorem QueryCall.Traced.move {call : QueryCall ω} (h : QueryCall.Traced t id call) (move : Move t t') :
    QueryCall.Traced t' id call :=
  ⟨h.course, fun turn hturn => (h.found turn hturn).imp_right fun published => published.move move⟩

/-- A query that takes a turn finds what the traffic has published. -/
theorem Sound.traced_takeQuery {target : QueryTarget} {turns : List (ChainTurn ω)} {now : Nat}
    {step : ChainView ω × QueryProgress} (h : Sound config t)
    (course : Query.Course id target (turns ++ [⟨now, t.gateway.view, step.1⟩]) step.2)
    (earlier : ∀ turn ∈ turns, turn.before.cache.snapshot = Snapshot.empty ∨
      Published t turn.before.cache.snapshot)
    (others : ∀ id call, t.queries.find? id = some call → QueryCall.Traced t id call) :
    ∀ id' call, (t.takeQuery now id target turns step).queries.find? id' = some call →
      QueryCall.Traced (t.takeQuery now id target turns step) id' call := by
  intro id' call hfind
  unfold Traffic.takeQuery at hfind
  rw [Table.find?_insert] at hfind
  split at hfind
  · cases hfind
    subst id'
    refine ⟨course, ?_⟩
    intro turn hturn
    rcases List.mem_append.1 hturn with hearlier | hlast
    · exact earlier turn hearlier
    · rw [List.mem_singleton.1 hlast]
      exact h.published.imp_left Blank.snapshot
  · have htraced := others id' call hfind
    exact ⟨htraced.course, htraced.found⟩

theorem Reached.traced (h : Reached config t) :
    ∀ id call, t.queries.find? id = some call → QueryCall.Traced t id call := by
  obtain ⟨outside, hmoves⟩ := h
  induction hmoves with
  | refl => exact fun _ _ => nofun
  | @tail t t' earlier move ih =>
    have hsound : Sound config t := Reached.sound ⟨outside, earlier⟩
    cases move with
    | refresh now id fresh => exact fun id' call hfind => (ih id' call hfind).move (.refresh now id fresh)
    | refreshOn now id waiting =>
      exact fun id' call hfind => (ih id' call hfind).move (.refreshOn now id waiting)
    | other quiet same => exact fun id' call hfind => (ih id' call hfind).move (.other quiet same)
    | query now id target fresh => exact hsound.traced_takeQuery (.start now _) (fun _ => nofun) ih
    | queryOn now id waiting =>
      have htraced := ih id _ waiting
      exact hsound.traced_takeQuery (htraced.course.resume now _) htraced.found ih

/-- The query was over in one turn, in which the snapshot held the session, as it has come from the chain
to the refresh that has published the snapshot. -/
def Held (config : GatewayConfig) (t : Traffic ω) (service : ServiceId) (app : String)
    (turns : List (ChainTurn ω)) (session : Session) : Prop :=
  ∃ turn, turns = [turn] ∧ turn.before.cache.snapshot.session? service app = some session ∧
    ∃ id turns last stats apps events, t.refreshes.find? id = some ⟨turns, .done (.ok stats)⟩ ∧
      Refresh.Built config.cacheManager turns last apps events turn.before.cache.snapshot ∧
      (⟨service, app⟩, session) ∈ RoundEvent.sessions events

theorem Reached.held (h : Reached config t) {service : ServiceId} {app : String} {turn : ChainTurn ω}
    {session : Session} {call : QueryCall ω} (hfind : t.queries.find? id = some call)
    (only : call.turns = [turn])
    (hsession : turn.before.cache.snapshot.session? service app = some session) :
    Held config t service app call.turns session := by
  have hfound := (h.traced id call hfind).found turn (only ▸ List.mem_singleton_self _)
  have hpublished : Published t turn.before.cache.snapshot := by
    refine hfound.resolve_left fun hempty => ?_
    rw [hempty] at hsession
    cases hsession
  obtain ⟨id', turns', last, stats, hrefresh, hlast, hsnapshot⟩ := hpublished
  obtain ⟨apps, events, hbuilt⟩ := (h.sound.refreshes id' _ hrefresh).built hlast
  rw [hsnapshot] at hbuilt
  exact ⟨turn, only, hsession, id', turns', last, stats, apps, events, hrefresh, hbuilt,
    (hbuilt.shows.sessions _ _).1 hsession⟩

/-- A query for a session stands as its turns account for, so that it fails only for a reason. If it is
answered, this is with a session. One that the snapshot did not hold has been completed and has an
application; one that it held is as the chain has given it to a refresh, with an application or without. -/
theorem Reached.answered (h : Reached config t) {service : ServiceId} {app : String}
    {turns : List (ChainTurn ω)} {progress : QueryProgress}
    (hfind : t.queries.find? id = some ⟨.session service app, turns, progress⟩) :
    Query.Stands id service app turns progress ∧
      ∀ answer, progress = .done (.ok answer) → ∃ session, answer = .session session ∧
        (Held config t service app turns session ∨
          Query.Completed id service app turns session ∧ session.application ≠ none) := by
  have hstands : Query.Stands id service app turns progress := (h.traced id _ hfind).course.stands
  refine ⟨hstands, ?_⟩
  rintro answer rfl
  cases hstands with
  | held only found => exact ⟨_, rfl, .inl (h.held hfind only found)⟩
  | completed completed =>
    refine ⟨_, rfl, .inr ⟨completed, ?_⟩⟩
    obtain ⟨asked, given, key, -, -, -, rfl⟩ := completed
    exact nofun

section Example

def bareScript : Script :=
  { (default : Script) with
    chain := { (default : ChainScript) with
      apps := [⟨"app", "", ["eth"]⟩]
      sessions := [⟨"eth", "app", some ⟨⟨"session", "eth", "app", 1, 5⟩, none, []⟩, none, none⟩] } }

/-- The same session is asked for before and after a refresh. -/
def bareTraffic : Traffic Script :=
  (((begin default bareScript).query 0 0 (.session "eth" "app")).refresh 10 0).query 20 1
    (.session "eth" "app")

def bareCompleted : Session :=
  ⟨⟨"session", "eth", "app", 1, 5⟩, some ⟨"app", "app-pubkey", ["eth"]⟩, []⟩

def handed? (call : QueryCall ω) : Option (ServiceId × String × Session) :=
  match call with
  | ⟨.session service app, _, .done (.ok (.session session))⟩ => some (service, app, session)
  | _ => none

omit [Collaborators ω] in
theorem find?_of_handed? {service : ServiceId} {app : String} {session : Session}
    (h : (t.queries.find? id).bind handed? = some (service, app, session)) :
    ∃ turns, t.queries.find? id = some ⟨.session service app, turns, .done (.ok (.session session))⟩ := by
  obtain ⟨call, hfind, hcall⟩ := Option.bind_eq_some_iff.1 h
  unfold handed? at hcall
  split at hcall
  · cases hcall
    exact ⟨_, hfind⟩
  · cases hcall

theorem reached_bare : Reached default bareTraffic :=
  (((Reached.begin default bareScript).query 0 0 _).refresh 10 0).query 20 1 _

theorem handed_bare :
    (bareTraffic.queries.find? 0).bind handed? = some ("eth", "app", bareCompleted) ∧
      (bareTraffic.queries.find? 1).bind handed? =
        some ("eth", "app", { bareCompleted with application := none }) := by
  decide +kernel

theorem answered_bare : Reached default bareTraffic ∧ ∃ turns,
    bareTraffic.queries.find? 0 =
        some ⟨.session "eth" "app", turns, .done (.ok (.session bareCompleted))⟩ ∧
      Query.Stands 0 "eth" "app" turns (.done (.ok (.session bareCompleted))) ∧
      ∃ session, QueryAnswer.session bareCompleted = .session session ∧
        (Held default bareTraffic "eth" "app" turns session ∨
          Query.Completed 0 "eth" "app" turns session ∧ session.application ≠ none) := by
  obtain ⟨turns, hfind⟩ := find?_of_handed? handed_bare.1
  obtain ⟨hstands, hanswered⟩ := reached_bare.answered hfind
  exact ⟨reached_bare, turns, hfind, hstands, hanswered _ rfl⟩

/-- After the refresh the session is handed out without an application. -/
theorem answered_without_application : ∃ turns session,
    Reached default bareTraffic ∧ bareTraffic.queries.find? 1 =
        some ⟨.session "eth" "app", turns, .done (.ok (.session session))⟩ ∧
      session.application = none := by
  obtain ⟨turns, hfind⟩ := find?_of_handed? handed_bare.2
  exact ⟨turns, _, reached_bare, hfind, rfl⟩

end Example

end Traffic
end RelayGateway
