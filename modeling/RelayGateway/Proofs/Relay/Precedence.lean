import RelayGateway.Proofs.Relay.Classification
import RelayGateway.Proofs.Text.Lowercase

/-! # Messages inside messages

A message is often wrapped into another. What it tells is not lost on the way: every phrase of it is still
there, so the kind that is told can only be replaced by one that takes precedence. Neither the case of
letters nor the way in which the rest of Unicode is put into lower case makes a difference.
-/
namespace RelayGateway

namespace EndpointErrorKind

/-- The kinds that phrases tell. Of two that are told the one further ahead counts. -/
def precedence : List EndpointErrorKind :=
  [maxedOut, misconfigured, timeout, connectionFailed, invalidPayload]

def Supersedes (k k' : EndpointErrorKind) : Prop :=
  ∃ ahead behind, precedence = ahead ++ k' :: behind ∧ (k = k' ∨ k ∈ ahead)

end EndpointErrorKind

/-! ## More phrases -/

variable {holds holds' : String → Bool} {kind : EndpointErrorKind} {message : String}

/-- A laxer test is passed for the first time no later in the list. -/
theorem find?_of_imp {α : Type} {p q : α → Bool} {l : List α} {x : α}
    (himp : ∀ y ∈ l, p y = true → q y = true) (h : l.find? p = some x) :
    ∃ ahead behind y, l = ahead ++ x :: behind ∧ l.find? q = some y ∧ (y = x ∨ y ∈ ahead) := by
  obtain ⟨hp, ahead, behind, rfl, -⟩ := List.find?_eq_some_iff_append.1 h
  have hq : q x = true := himp x (List.mem_append_right _ List.mem_cons_self) hp
  refine ⟨ahead, behind, (ahead.find? q).getD x, rfl, ?_, ?_⟩
  · rw [List.find?_append, List.find?_cons_of_pos hq]
    cases ahead.find? q <;> rfl
  · cases hahead : ahead.find? q with
    | none => exact .inl rfl
    | some y => exact .inr (List.mem_of_find?_eq_some hahead)

theorem tellingPhrases_kinds : tellingPhrases.map Prod.fst = EndpointErrorKind.precedence := rfl

/-- More phrases tell the same kind, or one that takes precedence. -/
theorem kindTold_mono (himp : ∀ p ∈ telling, holds p = true → holds' p = true)
    (h : kindTold holds = some kind) : ∃ kind', kindTold holds' = some kind' ∧ kind'.Supersedes kind := by
  obtain ⟨e, hfind, rfl⟩ := Option.map_eq_some_iff.1 h
  have hlaxer : ∀ e ∈ tellingPhrases, (e.2.any fun all => all.all holds) = true →
      (e.2.any fun all => all.all holds') = true := by
    intro e he htells
    obtain ⟨all, hall, hholds⟩ := List.any_eq_true.1 htells
    refine List.any_eq_true.2 ⟨all, hall, List.all_eq_true.2 fun p hp => himp p ?_ ?_⟩
    · exact List.mem_flatMap.2 ⟨e, he, List.mem_flatten.2 ⟨all, hall, hp⟩⟩
    · exact List.all_eq_true.1 hholds p hp
  obtain ⟨ahead, behind, e', hlist, hfind', hplace⟩ := find?_of_imp hlaxer hfind
  refine ⟨e'.1, congrArg (Option.map Prod.fst) hfind', ahead.map Prod.fst, behind.map Prod.fst, ?_, ?_⟩
  · rw [← tellingPhrases_kinds, hlist, List.map_append, List.map_cons]
  · exact hplace.imp (congrArg Prod.fst) fun hmem => List.mem_map_of_mem hmem

/-! ## Lower case -/

theorem isPlainPhrase_telling : ∀ p ∈ telling, Text.isPlainPhrase p.toList = true := by
  decide +kernel

/-- However the message is put into lower case, the phrases in it tell the same kind. -/
theorem classifyMessage_lowered {lowered : List Char} (low : Text.Lowered message.toList lowered) :
    classifyMessage message = kindTold (Text.mentions lowered) := by
  rw [classifyMessage_eq]
  exact kindTold_congr fun p hp => (Text.occurs_lowered (isPlainPhrase_telling p hp) low).symm

/-! ## Messages of failures -/

namespace RelayError
variable {e : RelayError}

/-- A failure with a message that is charged to the endpoint whatever the message says. -/
inductive ChargedWith (message : String) : RelayError → Prop
  | timeout : ChargedWith message (.transport .timeout)
  | connection : ChargedWith message (.transport (.connection message))
  | httpStatus (status : Nat) : ChargedWith message (.transport (.httpStatus status message))
  | invalidUrl : ChargedWith message (.transport (.invalidUrl message))
  | invalidRelayResponse (endpoint : EndpointAddr) :
      ChargedWith message (.validation endpoint (.invalidRelayResponse message))

theorem getD_ne_internal {otherwise : EndpointErrorKind} (h : otherwise ≠ .internal) :
    (classifyMessage message).getD otherwise ≠ .internal := by
  cases htold : classifyMessage message with
  | none => exact h
  | some kind => exact EndpointErrorKind.recommendedSanction_eq_session_iff.1 (sanction_of_told htold)

theorem ChargedWith.kind_ne (charged : ChargedWith message e) : e.kind ≠ .internal := by
  cases charged with
  | timeout => exact nofun
  | connection => exact getD_ne_internal nofun
  | httpStatus status =>
    refine getD_ne_internal ?_
    split <;> exact nofun
  | invalidUrl => exact nofun
  | invalidRelayResponse endpoint => exact getD_ne_internal nofun

theorem ChargedWith.sanction_eq (charged : ChargedWith message e) : e.sanction = .session :=
  EndpointErrorKind.recommendedSanction_eq_session_iff.2 charged.kind_ne

end RelayError

structure Stable (message : String) : Prop where
  /-- Inside another message it tells the same kind, or one that takes precedence is told there. -/
  wrapped : ∀ kind, classifyMessage message = some kind → ∀ before after : String,
    ∃ kind', classifyMessage (before ++ message ++ after) = some kind' ∧ kind'.Supersedes kind
  /-- The case of the letters of ASCII does not matter. -/
  caseless : ∀ message' : String, message'.toLower = message.toLower →
    classifyMessage message' = classifyMessage message
  /-- How the rest of Unicode is put into lower case does not matter either. -/
  lowered : ∀ lowered, Text.Lowered message.toList lowered →
    classifyMessage message = kindTold (Text.mentions lowered)
  /-- A failure of the endpoint stays one whatever is told. -/
  charged : ∀ e : RelayError, e.ChargedWith message → e.kind ≠ .internal ∧ e.sanction = .session

theorem classifyMessage_stable (message : String) : Stable message where
  wrapped kind htold before after := by
    have hinfix : Text.lower message <:+: Text.lower (before ++ message ++ after) :=
      ⟨Text.lower before, Text.lower after, by rw [Text.lower_append, Text.lower_append]⟩
    exact kindTold_mono (fun p _ => Text.mentions_of_isInfix hinfix) htold
  caseless message' hcase := by
    rw [classifyMessage_eq, classifyMessage_eq, Text.lower_congr hcase]
  lowered _ low := classifyMessage_lowered low
  charged _ charged := ⟨charged.kind_ne, charged.sanction_eq⟩

/-- A refused connection counts as a timeout once the words around it tell of one. -/
theorem stable_superseded :
    classifyMessage "Connection REFUSED" = some .connectionFailed ∧
      ∃ kind, classifyMessage ("dial tcp: " ++ "Connection REFUSED" ++ ", then timed out") = some kind ∧
        kind.Supersedes .connectionFailed := by
  have htold : classifyMessage "Connection REFUSED" = some .connectionFailed := by decide +kernel
  exact ⟨htold, (classifyMessage_stable _).wrapped _ htold _ _⟩

end RelayGateway
