import Mathlib.Data.List.Find
import RelayGateway.Proofs.Text.Occurs
import RelayGateway.Relay.Attempt
import RelayGateway.Sanction.Store

/-! # What decides on the kind of an error

The kind of an error is told by the phrases in a text, and by nothing else. For a failure of the chain node
while a reply is verified this text shows the address of the endpoint as well: its phrases are those of the
address and those of the free text of the node, and the fixed words around these add none.
-/
namespace RelayGateway

/-! ## Phrases -/

def telling : List String := tellingPhrases.flatMap fun e => e.2.flatten

def kindTold (holds : String → Bool) : Option EndpointErrorKind :=
  (tellingPhrases.find? fun e => e.2.any fun all => all.all holds).map Prod.fst

theorem kindTold_congr {holds holds' : String → Bool} (h : ∀ p ∈ telling, holds p = holds' p) :
    kindTold holds = kindTold holds' := by
  unfold kindTold
  congr 1
  refine List.find?_congr fun e he => ?_
  rw [Bool.eq_iff_iff]
  simp only [List.any_eq_true, List.all_eq_true]
  refine exists_congr fun all => and_congr_right fun hall => forall₂_congr fun p hp => ?_
  rw [h p (List.mem_flatMap.2 ⟨e, he, List.mem_flatten.2 ⟨all, hall, hp⟩⟩)]

theorem classifyMessage_eq (message : String) :
    classifyMessage message = kindTold (Text.mentions (Text.lower message)) := rfl

/-! ## Failures of the chain node -/

inductive ChainError.FailsWith (reason : String) : ChainError → Prop
  | notFound : FailsWith reason (.notFound reason)
  | unavailable : FailsWith reason (.unavailable reason)
  | rpc : FailsWith reason (.rpc reason)

def ChainError.leads : List String := ["not found: ", "chain node unavailable: ", "chain rpc error: "]

theorem ChainError.FailsWith.message {reason : String} {cause : ChainError} (h : cause.FailsWith reason) :
    ∃ lead ∈ leads, cause.message = lead ++ reason := by
  cases h with
  | notFound => exact ⟨_, .head _, rfl⟩
  | unavailable => exact ⟨_, .tail _ (.head _), rfl⟩
  | rpc => exact ⟨_, .tail _ (.tail _ (.head _)), rfl⟩

def EndpointAddr.shown (a : EndpointAddr) : List Char := Text.lower (a.text ++ ": ")

namespace RelayError
variable {endpoint : EndpointAddr} {cause : ChainError} {reason : String}

def opening : String := "error verifying the relay response from endpoint "

/-- The fixed words hold no phrase, and none lies across their edges. -/
theorem seamless : ∀ p ∈ telling, Text.inert (Text.lower opening) p.toList = true ∧
    ∀ lead ∈ ChainError.leads, Text.crosses (Text.lower ": ") (Text.lower lead) p.toList = false ∧
      Text.inert (Text.lower lead) p.toList = true := by
  decide +kernel

theorem mentions_validation (failure : cause.FailsWith reason) {p : String} (hp : p ∈ telling) :
    Text.mentions (Text.lower (validation endpoint cause).message) p =
      (Text.mentions endpoint.shown p || Text.mentions (Text.lower reason) p) := by
  obtain ⟨lead, hlead, hmessage⟩ := failure.message
  have htext : (validation endpoint cause).message = opening ++ endpoint.text ++ ": " ++ (lead ++ reason) :=
    congrArg (opening ++ endpoint.text ++ ": " ++ ·) hmessage
  have hlower : Text.lower (validation endpoint cause).message = Text.lower opening ++
      ((Text.lower endpoint.text ++ Text.lower ": ") ++ (Text.lower lead ++ Text.lower reason)) := by
    rw [htext]
    simp only [Text.lower_append, List.append_assoc]
  obtain ⟨hopening, hleads⟩ := seamless p hp
  obtain ⟨hcolon, hinert⟩ := hleads lead hlead
  unfold Text.mentions EndpointAddr.shown
  rw [hlower, Text.occurs_append_of_inert hopening, Text.occurs_append hcolon,
    Text.occurs_append_of_inert hinert, Text.lower_append]

/-- The address of the endpoint and the free text of the node tell the kind together. -/
theorem kind_validation (failure : cause.FailsWith reason) :
    (validation endpoint cause).kind =
      (kindTold fun p => Text.mentions endpoint.shown p || Text.mentions (Text.lower reason) p).getD
        .internal := by
  have hkind : (validation endpoint cause).kind =
      (classifyMessage (validation endpoint cause).message).getD .internal := by
    cases failure <;> rfl
  rw [hkind, classifyMessage_eq, kindTold_congr fun p hp => mentions_validation failure hp]

/-! ## An outage of the chain node -/

def Plain (a : EndpointAddr) : Prop := ∀ p ∈ telling, Text.mentions a.shown p = false

instance (a : EndpointAddr) : Decidable (Plain a) :=
  inferInstanceAs (Decidable (∀ p ∈ telling, Text.mentions a.shown p = false))

theorem Plain.kind_validation (plain : Plain endpoint) (failure : cause.FailsWith reason) :
    (validation endpoint cause).kind = (classifyMessage reason).getD .internal := by
  rw [RelayError.kind_validation failure, classifyMessage_eq]
  congr 1
  exact kindTold_congr fun p hp => by rw [plain p hp, Bool.false_or]

/-- Every kind that a phrase tells is a fault of the endpoint. -/
theorem sanction_of_told {message : String} {kind : EndpointErrorKind}
    (h : classifyMessage message = some kind) : kind.recommendedSanction = .session := by
  obtain ⟨e, he, rfl⟩ := Option.map_eq_some_iff.1 h
  have hfaults : ∀ e ∈ tellingPhrases, e.1.recommendedSanction = .session := by decide
  exact hfaults e (List.mem_of_find?_eq_some he)

/-- An observation that recommends nothing leaves no trace. -/
theorem record_unspecified {o : EndpointObservation} (h : o.recommendedSanction = some .unspecified)
    (now : Nat) (s : SanctionStore) : s.record now o = s := by
  unfold SanctionStore.record
  rw [h]
  exact ite_self s

/-- What a failure of the chain node comes to while a reply is verified. Its free text alone tells the kind,
and that is a fault of the endpoint; if it tells none, nobody is sanctioned for it. -/
structure Judged (endpoint : EndpointAddr) (cause : ChainError) (reason : String) : Prop where
  told : ∀ kind, classifyMessage reason = some kind →
    (validation endpoint cause).kind = kind ∧ (validation endpoint cause).sanction = .session
  untold : classifyMessage reason = none →
    (validation endpoint cause).kind = .internal ∧ (validation endpoint cause).sanction = .unspecified ∧
      ∀ (a : Attempt) (ended now : Nat) (s : SanctionStore),
        s.record now (a.observation ended (.error (validation endpoint cause))) = s

theorem Plain.judged (plain : Plain endpoint) (failure : cause.FailsWith reason) :
    Judged endpoint cause reason := by
  have hkind := plain.kind_validation failure
  refine ⟨fun kind htold => ?_, fun huntold => ?_⟩
  · rw [htold, Option.getD_some] at hkind
    refine ⟨hkind, ?_⟩
    unfold sanction
    rw [hkind, sanction_of_told htold]
  · rw [huntold, Option.getD_none] at hkind
    have hsanction : (validation endpoint cause).sanction = .unspecified :=
      congrArg EndpointErrorKind.recommendedSanction hkind
    exact ⟨hkind, hsanction, fun a ended now s => record_unspecified (congrArg some hsanction) now s⟩

section Example

def unforeseen : RelayError := .validation ⟨"node-https://node"⟩ (.rpc "something brand new")

theorem plain_node : Plain ⟨"node-https://node"⟩ := by decide +kernel

theorem untold_unforeseen : classifyMessage "something brand new" = none := by decide +kernel

theorem judged_unforeseen :
    Plain ⟨"node-https://node"⟩ ∧
    (ChainError.rpc "something brand new").FailsWith "something brand new" ∧
    classifyMessage "something brand new" = none ∧
    unforeseen.kind = .internal ∧ unforeseen.sanction = .unspecified ∧
    ∀ (a : Attempt) (ended now : Nat) (s : SanctionStore),
      s.record now (a.observation ended (.error unforeseen)) = s := by
  have hjudged : Judged ⟨"node-https://node"⟩ (.rpc "something brand new") "something brand new" :=
    plain_node.judged .rpc
  exact ⟨plain_node, .rpc, untold_unforeseen, hjudged.untold untold_unforeseen⟩

/-- The gateway cannot reach its own node, and the endpoint is sanctioned for it. -/
theorem sanctioned_for_outage :
    Plain ⟨"node-https://node"⟩ ∧
    (ChainError.unavailable "connection refused").FailsWith "connection refused" ∧
    (validation ⟨"node-https://node"⟩ (.unavailable "connection refused")).kind = .connectionFailed ∧
    (validation ⟨"node-https://node"⟩ (.unavailable "connection refused")).sanction = .session := by
  have hkind : (validation ⟨"node-https://node"⟩ (.unavailable "connection refused")).kind =
      .connectionFailed := by
    rw [plain_node.kind_validation .unavailable]
    decide +kernel
  exact ⟨plain_node, .unavailable, hkind, congrArg EndpointErrorKind.recommendedSanction hkind⟩

end Example

/-! ## Names -/

/-- The names that an error may carry. The endpoint's comes from whoever offers it. -/
structure Names where
  endpoint : EndpointAddr
  service : ServiceId
  sessionId : String
  app : String

def rename (names : Names) : RelayError → RelayError
  | noEndpoints _ => noEndpoints names.service
  | noEndpointSelected _ => noEndpointSelected names.service
  | endpointNotFound _ _ => endpointNotFound names.endpoint names.service
  | selectionFailed _ reason => selectionFailed names.service reason
  | alreadyDispatched _ => alreadyDispatched names.service
  | missingApplication _ => missingApplication names.sessionId
  | signing _ cause => signing names.app cause
  | concurrencyLimit => concurrencyLimit
  | timeout => timeout
  | transport cause => transport cause
  | validation _ cause => validation names.endpoint cause
  | noFallbackEndpoints _ => noFallbackEndpoints names.service

def Alike (a b : EndpointAddr) : Prop := ∀ p ∈ telling, Text.mentions a.shown p = Text.mentions b.shown p

instance (a b : EndpointAddr) : Decidable (Alike a b) :=
  inferInstanceAs (Decidable (∀ p ∈ telling, Text.mentions a.shown p = Text.mentions b.shown p))

theorem Alike.kind_validation {a b : EndpointAddr} (h : Alike a b) (failure : cause.FailsWith reason) :
    (validation b cause).kind = (validation a cause).kind := by
  rw [RelayError.kind_validation failure, RelayError.kind_validation failure]
  congr 1
  exact kindTold_congr fun p hp => by rw [h p hp]

/-- What the names in an error tell of its kind: nothing, but for the address of an endpoint when the chain
node fails while the reply of that endpoint is verified. -/
structure NamesTell (e : RelayError) (names : Names) : Prop where
  /-- The error is classified as before, unless the addresses hold other phrases in such a failure. -/
  same : (∀ endpoint cause reason, e = .validation endpoint cause → cause.FailsWith reason →
      Alike endpoint names.endpoint) →
    (e.rename names).kind = e.kind ∧ (e.rename names).sanction = e.sanction
  /-- In such a failure the phrases of the address count as those of the free text do. -/
  shown : ∀ endpoint cause reason, e = .validation endpoint cause → cause.FailsWith reason →
    (e.rename names).kind =
      (kindTold fun p => Text.mentions names.endpoint.shown p || Text.mentions (Text.lower reason) p).getD
        .internal

theorem kind_rename {e : RelayError} {names : Names}
    (alike : ∀ endpoint cause reason, e = .validation endpoint cause → cause.FailsWith reason →
      Alike endpoint names.endpoint) : (e.rename names).kind = e.kind := by
  cases e with
  | validation endpoint cause =>
    have hfails {reason : String} (failure : cause.FailsWith reason) :=
      (alike endpoint cause reason rfl failure).kind_validation failure
    cases cause with
    | timeout => rfl
    | invalidRelayResponse reason => rfl
    | notFound what => exact hfails .notFound
    | unavailable reason => exact hfails .unavailable
    | rpc reason => exact hfails .rpc
  | _ => rfl

theorem classified_rename (e : RelayError) (names : Names) : NamesTell e names where
  same alike := ⟨kind_rename alike, congrArg EndpointErrorKind.recommendedSanction (kind_rename alike)⟩
  shown := by
    rintro endpoint cause reason rfl failure
    exact kind_validation failure

section Example

theorem classified_rename_spare :
    (∀ endpoint cause reason, unforeseen = .validation endpoint cause → cause.FailsWith reason →
      Alike endpoint ⟨"spare-https://spare"⟩) ∧
    (unforeseen.rename ⟨⟨"spare-https://spare"⟩, "eth", "session", "app"⟩).kind = unforeseen.kind ∧
    (unforeseen.rename ⟨⟨"spare-https://spare"⟩, "eth", "session", "app"⟩).sanction =
      unforeseen.sanction := by
  have halike : ∀ endpoint cause reason, unforeseen = .validation endpoint cause →
      cause.FailsWith reason → Alike endpoint ⟨"spare-https://spare"⟩ := by
    rintro _ _ _ ⟨⟩ -
    decide +kernel
  exact ⟨halike, (classified_rename _ _).same halike⟩

/-- An endpoint is sanctioned for its name. -/
theorem misjudged_for_its_name : ∃ names : Names,
    unforeseen.kind = .internal ∧ unforeseen.sanction = .unspecified ∧
    (unforeseen.rename names).kind = .connectionFailed ∧
    (unforeseen.rename names).sanction = .session := by
  have hkind : unforeseen.kind = .internal := by
    rw [unforeseen, plain_node.kind_validation .rpc, untold_unforeseen]
    rfl
  have hrenamed : (unforeseen.rename
      ⟨⟨"certificate-https://certificate"⟩, "eth", "session", "app"⟩).kind = .connectionFailed := by
    unfold unforeseen rename
    rw [kind_validation .rpc]
    decide +kernel
  exact ⟨_, hkind, congrArg EndpointErrorKind.recommendedSanction hkind, hrenamed,
    congrArg EndpointErrorKind.recommendedSanction hrenamed⟩

end Example

end RelayError
end RelayGateway
