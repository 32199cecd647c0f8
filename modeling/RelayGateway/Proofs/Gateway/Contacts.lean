import RelayGateway.Proofs.Gateway.Offer
import RelayGateway.Proofs.Process.Reachable
import RelayGateway.Proofs.Relay.Handling
import RelayGateway.Script

/-! # Who is contacted

Whatever a gateway has been through, a context is built over what may be contacted at that moment, and
whatever is done with the context, nothing else is contacted.
-/
namespace RelayGateway
variable {ω : Type} {now : Nat} {service : ServiceId} {m : RequestMetadata} {c : RequestContext}

namespace Gateway
variable {g : Gateway ω} {p : ProtocolConfig}

structure Serves (p : ProtocolConfig) (g : Gateway ω) (now : Nat) (service : ServiceId)
    (m : RequestMetadata) (result : Except NoEndpoints RequestContext) : Prop where
  diverted : Diverted p service → ∃ c, result = .ok c ∧
    c.endpoints = fallbackEndpoints (fallbackUrls p service) ∧ c.inRollover = false
  opened : ¬ Diverted p service → (∃ addr e, Open g now service m addr e) → ∃ c, result = .ok c ∧
    (∀ addr e, c.endpoints.find? addr = some e ↔ Open g now service m addr e) ∧
      c.inRollover = g.inRollover
  closed : ¬ Diverted p service → (¬ ∃ addr e, Open g now service m addr e) →
    fallbackUrls p service ≠ [] →
      ∃ c, result = .ok c ∧ c.endpoints = fallbackEndpoints (fallbackUrls p service) ∧
        c.inRollover = g.inRollover
  refused : ¬ Diverted p service → (¬ ∃ addr e, Open g now service m addr e) →
    fallbackUrls p service = [] → result = .error ⟨service⟩

theorem buildContext_serves (hg : g.fallbacks = fallbackSets p) :
    Serves p g now service m (g.buildContext now service m).2 := by
  refine ⟨?_, ?_, ?_, ?_⟩
  · intro hdiverted
    obtain ⟨id, hbuilt⟩ := buildContext_of_some (offer?_of_diverted hg hdiverted)
    exact ⟨_, hbuilt, rfl, rfl⟩
  · intro hdiverted hopen
    obtain ⟨id, hbuilt⟩ := buildContext_of_some (offer?_of_open hg hdiverted hopen)
    exact ⟨_, hbuilt, fun addr e => find?_allowed, rfl⟩
  · intro hdiverted hopen hurls
    have hoffer : g.offer? now service m = _ := offer?_of_closed hg hdiverted hopen
    rw [if_neg hurls] at hoffer
    obtain ⟨id, hbuilt⟩ := buildContext_of_some hoffer
    exact ⟨_, hbuilt, rfl, rfl⟩
  · intro hdiverted hopen hurls
    have hoffer := offer?_of_closed hg hdiverted hopen
    rw [if_pos hurls] at hoffer
    exact buildContext_of_none hoffer

/-- An endpoint that may be contacted through a context that was built at some moment: one that the
context offers, or in rollover the fallback with the least address, after an attempt at a protocol
endpoint has failed. A protocol endpoint must have been open at that moment. -/
structure MayContact (p : ProtocolConfig) (g : Gateway ω) (now : Nat) (service : ServiceId)
    (m : RequestMetadata) (c : RequestContext) (x : Contact) : Prop where
  url : x.url = targetUrl x.endpoint x.payload
  endpoint : (∃ addr, c.endpoints.find? addr = some x.endpoint) ∨
    (c.inRollover = true ∧ LeastFallback p service x.endpoint ∧
      ∃ failed ∈ x.observed, failed.isFallback = false ∧ failed.isError = true)
  opened : x.endpoint.isFallback = false → ∃ addr, Open g now service m addr x.endpoint

theorem mayContact_of_lawful (hg : g.fallbacks = fallbackSets p)
    (hbuilt : (g.buildContext now service m).2 = .ok c) {x : Contact} (hx : x.Lawful c.offer) :
    MayContact p g now service m c x := by
  obtain ⟨o, id, hoffer, rfl⟩ := buildContext_ok hbuilt
  obtain ⟨hpermits, hurl⟩ := hx
  rcases hpermits with ⟨addr, hfind⟩ | ⟨hrollover, hleast, hfailed⟩
  · exact ⟨hurl, .inl ⟨addr, hfind⟩, fun hprotocol => ⟨addr, open_of_offered hg hoffer hfind hprotocol⟩⟩
  · have hfallback := leastFallback_of_offered hg hoffer hrollover hleast
    refine ⟨hurl, .inr ⟨hrollover, hfallback, hfailed⟩, ?_⟩
    intro hprotocol
    obtain ⟨url, -, heq, -⟩ := hfallback
    rw [heq] at hprotocol
    cases hprotocol

end Gateway

/-! ## Dispatches in operation -/

namespace World
variable [Collaborators ω] {id : ProcessId} {plan : DispatchPlan} {w : World (Recorder ω)}
variable {h : Handling}

/-- A turn leaves a context where its handling is, and has posted what the handling has since
`posted`. -/
structure Leaves (plan : DispatchPlan) (w : World (Recorder ω)) (posted : List String)
    (t : WorldTurn (Recorder ω)) (h : Handling) : Prop where
  context : t.shared.contexts.find? plan.context = some h.context
  process : t.process = h.running.map fun d => .dispatch plan (some d)
  posted : h.posted = posted ++ w.gateway.relays.posted t.shared.gateway.relays

theorem afterDispatch_handles (h : Handling) (contacts : List Contact)
    (s : RequestContext × Relays (Recorder ω) × DispatchProgress) :
    ∃ actions : List (Handling.Action ω), Leaves plan w h.posted (afterDispatch now id plan w s)
      (actions.foldl Handling.act (h.after w.gateway.relays contacts s)) := by
  obtain ⟨c, r, progress⟩ := s
  unfold afterDispatch
  cases progress with
  | done result => exact ⟨[], Table.find?_insert_self .., rfl, rfl⟩
  | waiting d =>
    dsimp only
    split
    · refine ⟨[.drop id r], Table.find?_insert_self .., rfl, ?_⟩
      have hdrop : (d.drop id r).outside = r.outside := Attempt.drop_outside ..
      have hposted : w.gateway.relays.posted (d.drop id r) = w.gateway.relays.posted r := by
        unfold Relays.posted
        rw [hdrop]
      calc h.posted ++ w.gateway.relays.posted r ++ r.posted (d.drop id r)
          = h.posted ++ w.gateway.relays.posted r := by
            rw [Relays.posted_of_eq hdrop, List.append_nil]
        _ = h.posted ++ w.gateway.relays.posted (d.drop id r) := by rw [hposted]
    · exact ⟨[], Table.find?_insert_self .., rfl, rfl⟩

/-- A turn of a dispatch handles its context, and posts nothing beside. -/
theorem runDispatch_handles (hstart : plan.startAt ≤ now)
    (hfind : w.contexts.find? plan.context = some h.context) :
    ∃ actions : List (Handling.Action ω), Leaves plan w h.posted
      (runDispatch now id plan h.running w) (actions.foldl Handling.act h) := by
  unfold runDispatch
  rw [if_neg (Nat.not_lt.2 hstart), hfind]
  cases hrunning : h.running with
  | none =>
    obtain ⟨actions, hleaves⟩ := afterDispatch_handles h
      (Handling.beginContacts w.gateway.relayConfig now id plan.payload h.context w.gateway.relays)
      (Dispatch.begin w.gateway.relayConfig now id plan.payload h.context w.gateway.relays)
    refine ⟨.begin w.gateway.relayConfig now id plan.payload w.gateway.relays :: actions, ?_⟩
    rw [List.foldl_cons, Handling.act_begin hrunning]
    exact hleaves
  | some d =>
    obtain ⟨actions, hleaves⟩ := afterDispatch_handles h
      (Handling.resumeContacts now id d h.context w.gateway.relays)
      (d.resume now id h.context w.gateway.relays)
    refine ⟨.resume now id w.gateway.relays :: actions, ?_⟩
    rw [List.foldl_cons, Handling.act_resume hrunning]
    exact hleaves

end World

namespace Operation
variable [Collaborators ω] {o : Operation ω} {config : GatewayConfig}

/-- In every reachable state a context offers its service's fallbacks when all traffic goes there, else
exactly what is open, else the fallbacks, and whatever is done with it posts only where it may. -/
theorem Reachable.contacts (h : Reachable config o) (service : ServiceId) (m : RequestMetadata) :
    Gateway.Serves config.protocol o.gateway o.now service m
        (o.gateway.buildContext o.now service m).2 ∧
      ∀ c, (o.gateway.buildContext o.now service m).2 = .ok c →
        ∀ actions : List (Handling.Action ω),
          (Handling.run c actions).contacts.map Contact.url = (Handling.run c actions).posted ∧
            ∀ x ∈ (Handling.run c actions).contacts,
              Gateway.MayContact config.protocol o.gateway o.now service m c x := by
  refine ⟨Gateway.buildContext_serves h.fallbacks_eq, ?_⟩
  intro c hbuilt actions
  have hnone : c.selected = none := by
    obtain ⟨offer, id, -, rfl⟩ := Gateway.buildContext_ok hbuilt
    rfl
  have hbound := Handling.run_bound hnone actions
  refine ⟨hbound.posted, ?_⟩
  intro x hx
  exact Gateway.mayContact_of_lawful h.fallbacks_eq hbuilt (hbound.lawful x hx)

section Example

def exampleConfig : GatewayConfig :=
  { (default : GatewayConfig) with
    protocol := ⟨"shannon", [⟨"eth", false, ["https://spare"]⟩]⟩
    signatureCache := { (default : SignatureCacheConfig) with enabled := false } }

def exampleApp : Application := ⟨"app", "", ["eth"]⟩

def exampleSession : Session :=
  ⟨⟨"session", "eth", "app", 1, 5⟩, some exampleApp, [⟨"node", [⟨.jsonRpc, "https://node"⟩]⟩]⟩

def exampleScript : Script :=
  { (default : Script) with
    chain := { (default : ChainScript) with
      apps := [exampleApp], sessions := [⟨"eth", "app", some exampleSession, none, none⟩], height := 5 }
    transport := [⟨"https://node", 0, some .timeout, none⟩] }

def exampleOperation : Operation Script :=
  (((begin exampleConfig exampleScript).perform (.refresh none)).1.perform (.poll none)).1

def exampleActions : List (Handling.Action Script) :=
  let g := exampleOperation.gateway
  [.select fun addrs => .ok (addrs.headD default),
    .begin g.relayConfig exampleOperation.now 0 ⟨[], "", .jsonRpc, none⟩
      ⟨g.limiter, g.signatures, ⟨g.outside, []⟩, []⟩]

/-- In rollover the supplier is contacted first, and the fallback when that has failed. -/
theorem contacts_in_rollover :
    ∃ c, Reachable exampleConfig exampleOperation ∧
      (exampleOperation.gateway.buildContext exampleOperation.now "eth" ⟨none, none⟩).2 = .ok c ∧
      (Handling.run c exampleActions).contacts.map (fun x => (x.url, x.observed.length)) =
        [("https://node", 0), ("https://spare", 1)] ∧
      ∀ x ∈ (Handling.run c exampleActions).contacts,
        Gateway.MayContact exampleConfig.protocol exampleOperation.gateway exampleOperation.now "eth"
          ⟨none, none⟩ c x := by
  have hreachable : Reachable exampleConfig exampleOperation :=
    ((Reachable.begin exampleConfig exampleScript).perform _).perform _
  generalize hresult :
    (exampleOperation.gateway.buildContext exampleOperation.now "eth" ⟨none, none⟩).2 = result
  have hrun : result.toOption.map (fun c => (Handling.run c exampleActions).contacts.map
      fun x => (x.url, x.observed.length)) = some [("https://node", 0), ("https://spare", 1)] := by
    rw [← hresult]
    decide +kernel
  cases result with
  | error e => cases hrun
  | ok c =>
    exact ⟨c, hreachable, rfl, Option.some.inj hrun,
      ((hreachable.contacts "eth" ⟨none, none⟩).2 c hresult exampleActions).2⟩

end Example

end Operation
end RelayGateway
