import RelayGateway.Process.Call
import RelayGateway.Proofs.Cache.Course

/-! # Queries leave the snapshot alone

Whatever a query looks up goes into the shared lookups. A session is handed to the monitor only when it
is handed out, so a query that waits or fails is quiet.
-/
namespace RelayGateway
variable {ω : Type} {now : Nat} {id : ProcessId}

namespace Query
variable {v v' : ChainView ω} {s : ChainView ω × QueryProgress}

/-- A turn of a query leaves what is published alone, and the monitor too unless the query succeeds. -/
structure Leaves (v : ChainView ω) (s : ChainView ω × QueryProgress) : Prop where
  cache : v.cache.Quiet s.1.cache
  rollover : (∀ answer, s.2 ≠ .done (.ok answer)) → s.1.rollover = v.rollover

theorem Leaves.quiet (h : Leaves v s) (hs : ∀ answer, s.2 ≠ .done (.ok answer)) : v.Quiet s.1 :=
  ⟨h.cache, h.rollover hs⟩

theorem leaves_of_quiet {progress : QueryProgress} (h : v.Quiet v') : Leaves v (v', progress) :=
  ⟨h.cache, fun _ => h.rollover⟩

theorem Leaves.after (h : Leaves v' s) (hv : v.Quiet v') : Leaves v s :=
  ⟨hv.cache.trans h.cache, fun hs => (h.rollover hs).trans hv.rollover⟩

theorem quiet_takeApps (v : ChainView ω) (s : LookupStep ω Application) : v.Quiet (takeApps v s) :=
  ⟨⟨rfl, rfl, fun h => h, rfl⟩, rfl⟩

theorem quiet_takeKeys (v : ChainView ω) (s : LookupStep ω String) : v.Quiet (takeKeys v s) :=
  ⟨⟨rfl, rfl, fun h => h, rfl⟩, rfl⟩

theorem quiet_outside (v : ChainView ω) (outside : ω) : v.Quiet { v with outside } :=
  ⟨.refl v.cache, rfl⟩

theorem afterApp_leaves {address : String} {s : LookupStep ω Application} :
    Leaves v (afterApp address v s) := by
  unfold afterApp
  split <;> exact leaves_of_quiet (quiet_takeApps v s)

theorem afterKey_leaves {address : String} {s : LookupStep ω String} :
    Leaves v (afterKey address v s) := by
  unfold afterKey
  split <;> exact leaves_of_quiet (quiet_takeKeys v s)

theorem deliver_leaves {session : Session} : Leaves v (deliver session v) :=
  ⟨.refl v.cache, fun h => absurd rfl (h _)⟩

theorem afterSessionKey_leaves {session : Session} {app : Application} {s : LookupStep ω String} :
    Leaves v (afterSessionKey session app v s) := by
  unfold afterSessionKey
  split
  · exact leaves_of_quiet (quiet_takeKeys v s)
  · exact deliver_leaves.after (quiet_takeKeys v s)
  · exact leaves_of_quiet (quiet_takeKeys v s)

variable [Collaborators ω]

theorem completeKey_leaves {session : Session} {app : Application} :
    Leaves v (completeKey now id session app v) := by
  unfold completeKey
  split
  · exact afterSessionKey_leaves
  · exact deliver_leaves

theorem afterSessionApp_leaves {session : Session} {s : LookupStep ω Application} :
    Leaves v (afterSessionApp now id session v s) := by
  unfold afterSessionApp
  split
  · exact leaves_of_quiet (quiet_takeApps v s)
  · exact completeKey_leaves.after (quiet_takeApps v s)
  · exact leaves_of_quiet (quiet_takeApps v s)

theorem complete_leaves {session : Session} : Leaves v (complete now id session v) := by
  unfold complete
  split
  · exact completeKey_leaves
  · split
    · exact completeKey_leaves
    · exact afterSessionApp_leaves

theorem awaitSession_leaves {service : ServiceId} {appAddress : String}
    {answer : Pending (Except ChainError Session)} {deadline : Nat} :
    Leaves v (awaitSession now id service appAddress v answer deadline) := by
  unfold awaitSession
  split
  · exact complete_leaves.after (quiet_outside v _)
  · exact leaves_of_quiet (quiet_outside v _)
  · split
    · exact leaves_of_quiet (quiet_outside v _)
    · exact leaves_of_quiet (.refl v)

theorem getApp_leaves {address : String} : Leaves v (getApp now id address v) := by
  unfold getApp
  split
  · exact leaves_of_quiet (.refl v)
  · exact afterApp_leaves

theorem getSession_leaves {service : ServiceId} {appAddress : String} :
    Leaves v (getSession now id service appAddress v) := by
  unfold getSession
  split
  · exact leaves_of_quiet (.refl v)
  · exact awaitSession_leaves.after (quiet_outside v _)

theorem start_leaves (now : Nat) (id : ProcessId) (target : QueryTarget) (v : ChainView ω) :
    Leaves v (World.startQuery now id target v) := by
  cases target with
  | app address => exact getApp_leaves
  | key address => exact afterKey_leaves
  | session service appAddress => exact getSession_leaves

theorem resume_leaves (now : Nat) (id : ProcessId) (v : ChainView ω) (stage : QueryStage) :
    Leaves v (resume now id v stage) := by
  cases stage with
  | app address wait => exact afterApp_leaves
  | key address wait => exact afterKey_leaves
  | session service appAddress answer deadline => exact awaitSession_leaves
  | sessionApp session wait => exact afterSessionApp_leaves
  | sessionKey session app wait => exact afterSessionKey_leaves

end Query
end RelayGateway
