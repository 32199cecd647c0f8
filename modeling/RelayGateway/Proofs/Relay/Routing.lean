import RelayGateway.Proofs.Endpoint
import RelayGateway.Proofs.Relay.Replies

/-! # Where calls of a kind go

A supplier may list URLs for several kinds of call, in any order. Its endpoint keeps two of them: the last
streaming one, and the last of all others, which serves every call that is not streaming. What a dispatch
posts goes to the one or the other, with the path of the payload below it.
-/
namespace RelayGateway

/-! ## The URLs of a supplier -/

namespace SupplierEndpoints
variable {s : SupplierEndpoints} {t : RpcType} {u : SupplierUrl} {url : String}

def Advertises (s : SupplierEndpoints) (t : RpcType) (url : String) : Prop := ⟨t, url⟩ ∈ s.urls

/-- Of the URLs that are streaming as calls of kind `t` are, or plain as they are, it is the last. -/
def LastLike (s : SupplierEndpoints) (t : RpcType) (u : SupplierUrl) : Prop :=
  u.rpcType.isStreaming = t.isStreaming ∧ ∃ before after, s.urls = before ++ u :: after ∧
    ∀ v ∈ after, v.rpcType.isStreaming ≠ t.isStreaming

theorem lastLike_iff : s.LastLike t u ↔
    (s.urls.filter fun v => v.rpcType.isStreaming = t.isStreaming).getLast? = some u := by
  rw [List.getLast?_filter, find?_reverse_eq_some_iff]
  simp only [decide_eq_true_eq, decide_eq_false_iff_not]
  rfl

theorem LastLike.mem (h : s.LastLike t u) : u ∈ s.urls := by
  obtain ⟨-, before, after, heq, -⟩ := h
  rw [heq]
  exact List.mem_append_right _ List.mem_cons_self

theorem exists_lastLike (h : s.Advertises t url) : ∃ u, s.LastLike t u := by
  simp only [lastLike_iff]
  refine ⟨_, List.getLast?_eq_some_getLast (List.ne_nil_of_mem (a := ⟨t, url⟩) ?_)⟩
  exact List.mem_filter.2 ⟨h, decide_eq_true rfl⟩

def keptFor? (s : SupplierEndpoints) (t : RpcType) : Option String :=
  if t.isStreaming then s.streamingUrl? else s.plainUrl?

theorem keptFor?_eq_some : s.keptFor? t = some url ↔ ∃ u, s.LastLike t u ∧ u.url = url := by
  simp only [lastLike_iff]
  rw [← Option.map_eq_some_iff]
  unfold keptFor? streamingUrl? plainUrl?
  cases t.isStreaming with
  | true => simp
  | false => simp

end SupplierEndpoints

/-! ## The endpoint of a supplier -/

theorem Endpoint.urlFor_ofSession (supplier url : String) (streaming : Option String)
    (session : Session) (t : RpcType) :
    (Endpoint.ofSession supplier url streaming session).urlFor t =
      (if t.isStreaming then streaming else none).getD url := by
  unfold urlFor
  cases t.isStreaming with
  | true => cases streaming <;> rfl
  | false => rfl

namespace Session
variable {s : Session} {allowed : Option String} {entry : SupplierEndpoints} {e : Endpoint} {t : RpcType}

theorem Derives.urlFor_eq (h : s.Derives allowed entry e) {url : String}
    (kept : entry.keptFor? t = some url) : e.urlFor t = url := by
  obtain ⟨plain, hplain, rfl⟩ := Option.map_eq_some_iff.1 h.derived
  rw [Endpoint.urlFor_ofSession]
  unfold SupplierEndpoints.keptFor? at kept
  cases hstreaming : t.isStreaming with
  | true =>
    rw [hstreaming, if_pos rfl] at kept
    rw [if_pos rfl, kept]
    rfl
  | false =>
    rw [hstreaming, if_neg Bool.false_ne_true, hplain] at kept
    exact Option.some.inj kept

end Session

/-! ## What is posted -/

/-- The URL is `base` with the path below it, joined by one slash; an empty path leaves `base` as it is. -/
def Joins (base path url : String) : Prop :=
  path = "" ∧ url = base ∨ path ≠ "" ∧ ∃ stem rest slashes slashes',
    base.toList = stem ++ List.replicate slashes '/' ∧ stem.getLast? ≠ some '/' ∧
    path.toList = List.replicate slashes' '/' ++ rest ∧ rest.head? ≠ some '/' ∧
    url.toList = stem ++ '/' :: rest

theorem exists_slashes (cs : List Char) :
    (∃ n, cs = List.replicate n '/' ++ trimSlashes cs) ∧ (trimSlashes cs).head? ≠ some '/' := by
  induction cs with
  | nil => exact ⟨⟨0, rfl⟩, nofun⟩
  | cons c cs ih =>
    by_cases hc : c = '/'
    · obtain ⟨⟨n, heq⟩, hhead⟩ := ih
      have htrim : trimSlashes (c :: cs) = trimSlashes cs := List.dropWhile_cons_of_pos (by simpa using hc)
      rw [htrim]
      refine ⟨⟨n + 1, ?_⟩, hhead⟩
      rw [List.replicate_succ, List.cons_append, ← heq, hc]
    · have htrim : trimSlashes (c :: cs) = c :: cs := List.dropWhile_cons_of_neg (by simpa using hc)
      rw [htrim]
      exact ⟨⟨0, rfl⟩, by simpa using hc⟩

theorem joins_targetUrl (e : Endpoint) (p : RelayPayload) :
    Joins (e.urlFor p.rpcType) p.path (targetUrl e p) := by
  unfold targetUrl
  dsimp only
  split
  · exact .inl ⟨‹_›, rfl⟩
  · rename_i hpath
    obtain ⟨⟨n, hbase⟩, hstem⟩ := exists_slashes (e.urlFor p.rpcType).toList.reverse
    obtain ⟨⟨m, hrest⟩, hhead⟩ := exists_slashes p.path.toList
    refine .inr ⟨hpath, _, _, n, m, ?_, ?_, hrest, hhead, String.toList_ofList⟩
    · have hreverse := congrArg List.reverse hbase
      simpa using hreverse
    · rwa [List.getLast?_reverse]

/-- In every run, what dispatches of payloads for `t` post to the endpoint goes to `base` and the path. -/
def PostsTo (e : Endpoint) (t : RpcType) (base : String) : Prop :=
  ∀ (ω : Type) [Collaborators ω] (config : RelayConfig) (signatures : SignatureCacheConfig)
    (run : Relaying ω), run.Reached config signatures → ∀ id x leg, run.Delivers id x → leg ∈ x.legs →
      leg.attempt.endpoint = e → x.payload.rpcType = t → ∀ posted url body timeout reply,
        .post posted url body timeout reply ∈ leg.exchanges → Joins base x.payload.path url

theorem postsTo_urlFor (e : Endpoint) (t : RpcType) : PostsTo e t (e.urlFor t) := by
  rintro ω _ config signatures run h id x leg delivers hleg rfl rfl posted url body timeout reply hpost
  obtain ⟨endpoint, started, deadline, hattempt⟩ := (h.ran.2 id x delivers).shape.sends hleg
  have hurl : url = leg.attempt.url := (h.backed.owned id x leg delivers hleg _ hpost).1
  rw [hurl, hattempt]
  exact joins_targetUrl endpoint x.payload

/-! ## Every session -/

/-- What an endpoint makes of the URLs of its supplier, for the calls of one kind. -/
structure Routes (entry : SupplierEndpoints) (t : RpcType) (e : Endpoint) : Prop where
  last : ∃ u, entry.LastLike t u ∧ e.urlFor t = u.url
  /-- Streaming calls go to a URL that is listed for them. -/
  streaming : t.isStreaming = true → entry.Advertises t (e.urlFor t)
  /-- So do plain calls when the last plain URL is listed for them. -/
  plain : (∀ u, entry.LastLike t u → u.rpcType = t) → entry.Advertises t (e.urlFor t)
  posts : PostsTo e t (e.urlFor t)

theorem RpcType.eq_of_isStreaming {t t' : RpcType} (h : t.isStreaming = true)
    (h' : t'.isStreaming = true) : t = t' :=
  (of_decide_eq_true h).trans (of_decide_eq_true h').symm

/-- Whatever URLs a supplier lists and in whatever order, calls of a kind that it serves go to the last
URL that is streaming as they are, or plain as they are. -/
theorem Session.Derives.routes {s : Session} {allowed : Option String} {entry : SupplierEndpoints}
    {e : Endpoint} {t : RpcType} (derived : s.Derives allowed entry e)
    (advertised : ∃ url, entry.Advertises t url) : Routes entry t e := by
  obtain ⟨url, hurl⟩ := advertised
  obtain ⟨u, hlast⟩ := SupplierEndpoints.exists_lastLike hurl
  have hu : e.urlFor t = u.url :=
    derived.urlFor_eq (SupplierEndpoints.keptFor?_eq_some.2 ⟨u, hlast, rfl⟩)
  have hadvertised : u.rpcType = t → entry.Advertises t (e.urlFor t) := by
    rintro rfl
    rw [hu]
    exact hlast.mem
  exact ⟨⟨u, hlast, hu⟩,
    fun streaming => hadvertised (RpcType.eq_of_isStreaming (hlast.1.trans streaming) streaming),
    fun plain => hadvertised (plain u hlast), postsTo_urlFor e t⟩

section Example

def mixedSupplier : SupplierEndpoints :=
  ⟨"node", [⟨.jsonRpc, "https://a"⟩, ⟨.websocket, "wss://a"⟩, ⟨.rest, "https://b"⟩]⟩

def mixedSession : Session :=
  ⟨⟨"session", "eth", "app", 1, 5⟩, some ⟨"app", "", ["eth"]⟩, [mixedSupplier]⟩

def mixedEndpoint : Endpoint := .ofSession "node" "https://b" (some "wss://a") mixedSession

theorem mixed_derives : mixedSession.Derives none mixedSupplier mixedEndpoint :=
  ⟨List.mem_singleton_self _, rfl, by decide⟩

theorem routes_rest : mixedSession.Derives none mixedSupplier mixedEndpoint ∧
    (∃ url, mixedSupplier.Advertises .rest url) ∧ mixedEndpoint.urlFor .rest = "https://b" ∧
    Routes mixedSupplier .rest mixedEndpoint := by
  have hadvertised : ∃ url, mixedSupplier.Advertises .rest url :=
    ⟨"https://b", by simp [SupplierEndpoints.Advertises, mixedSupplier]⟩
  exact ⟨mixed_derives, hadvertised, rfl, mixed_derives.routes hadvertised⟩

/-- The plain URL that is listed last serves the other plain calls as well. -/
theorem misrouted : ¬ ∀ (s : Session) (allowed : Option String) (entry : SupplierEndpoints) (e : Endpoint)
    (t : RpcType), s.Derives allowed entry e → (∃ url, entry.Advertises t url) →
      entry.Advertises t (e.urlFor t) := by
  intro h
  have hadvertised : ∃ url, mixedSupplier.Advertises .jsonRpc url :=
    ⟨"https://a", by simp [SupplierEndpoints.Advertises, mixedSupplier]⟩
  have hmember : mixedSupplier.Advertises .jsonRpc "https://b" :=
    h _ none _ _ .jsonRpc mixed_derives hadvertised
  simp [SupplierEndpoints.Advertises, mixedSupplier] at hmember

end Example

end RelayGateway
