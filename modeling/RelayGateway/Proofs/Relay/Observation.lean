import RelayGateway.Proofs.Session
import RelayGateway.Proofs.Timestamp
import RelayGateway.Proofs.Uuid
import RelayGateway.Relay.Observation

/-! # Observations that are read and written

What was read of observations is read again from what is written for it: the moments whatever their offset
was, a sanction that nobody knows as the one that stands for all of these.
-/
namespace RelayGateway
open Json (RoundTrip)

theorem Timestamp.roundTrip : RoundTrip ofJson? toJson := .spelled fun _ _ => reread

theorem Uuid.roundTrip : RoundTrip ofJson? toJson := .spelled fun _ _ => reread

theorem EndpointAddr.roundTrip : RoundTrip ofJson? toJson where
  exact a := .string a.text
  back _ _ _ := rfl

theorem EndpointErrorKind.roundTrip : RoundTrip ofJson? toJson := .named ofName?_name

theorem SanctionType.roundTrip : RoundTrip ofJson? toJson where
  exact t := .string t.name
  back _ t _ := congrArg some (ofName_name t)

namespace EndpointObservation

theorem roundTrip : RoundTrip ofJson? toJson where
  exact o := by
    have hnatural := RoundTrip.natural wordBound
    refine .object ?_
    simp only [List.forall_mem_cons]
    exact ⟨.string _, .string _, .string _, .bool _, .string _, .string _, .string _, .natural _, .natural _,
      Timestamp.roundTrip.exact _, Timestamp.roundTrip.exact _, (hnatural.nullable nofun).exact _,
      (hnatural.nullable nofun).exact _, (EndpointErrorKind.roundTrip.nullable nofun).exact _,
      (RoundTrip.string.nullable nofun).exact _, (SanctionType.roundTrip.nullable nofun).exact _,
      List.forall_mem_nil _⟩
  back j o h := by
    have hword := RoundTrip.natural wordBound
    have hstatus := (RoundTrip.natural 65536).nullable nofun
    have hsize := hword.nullable nofun
    have hkind := EndpointErrorKind.roundTrip.nullable nofun
    have htext := RoundTrip.string.nullable nofun
    have hsanction := SanctionType.roundTrip.nullable nofun
    obtain ⟨r, -, h⟩ := Option.bind_eq_some_iff.1 h
    obtain ⟨endpointAddr, h₁, h⟩ := Option.bind_eq_some_iff.1 h
    obtain ⟨supplier, h₂, h⟩ := Option.bind_eq_some_iff.1 h
    obtain ⟨endpointUrl, h₃, h⟩ := Option.bind_eq_some_iff.1 h
    obtain ⟨isFallback, h₄, h⟩ := Option.bind_eq_some_iff.1 h
    obtain ⟨appAddress, h₅, h⟩ := Option.bind_eq_some_iff.1 h
    obtain ⟨sessionId, h₆, h⟩ := Option.bind_eq_some_iff.1 h
    obtain ⟨sessionServiceId, h₇, h⟩ := Option.bind_eq_some_iff.1 h
    obtain ⟨sessionStartHeight, h₈, h⟩ := Option.bind_eq_some_iff.1 h
    obtain ⟨sessionEndHeight, h₉, h⟩ := Option.bind_eq_some_iff.1 h
    obtain ⟨queryTimestamp, h₁₀, h⟩ := Option.bind_eq_some_iff.1 h
    obtain ⟨responseTimestamp, h₁₁, h⟩ := Option.bind_eq_some_iff.1 h
    obtain ⟨httpStatusCode, h₁₂, h⟩ := Option.bind_eq_some_iff.1 h
    obtain ⟨payloadSize, h₁₃, h⟩ := Option.bind_eq_some_iff.1 h
    obtain ⟨errorKind, h₁₄, h⟩ := Option.bind_eq_some_iff.1 h
    obtain ⟨errorDetails, h₁₅, h⟩ := Option.bind_eq_some_iff.1 h
    obtain ⟨recommendedSanction, h₁₆, h⟩ := Option.bind_eq_some_iff.1 h
    cases h
    refine Json.Record.reading rfl (by decide) ?_
    refine Option.bind_eq_some_iff.2 ⟨_, EndpointAddr.roundTrip.required h₁ rfl, ?_⟩
    refine Option.bind_eq_some_iff.2 ⟨_, RoundTrip.string.required h₂ rfl, ?_⟩
    refine Option.bind_eq_some_iff.2 ⟨_, RoundTrip.string.required h₃ rfl, ?_⟩
    refine Option.bind_eq_some_iff.2 ⟨_, RoundTrip.bool.defaulted h₄ rfl rfl, ?_⟩
    refine Option.bind_eq_some_iff.2 ⟨_, RoundTrip.string.defaulted h₅ rfl rfl, ?_⟩
    refine Option.bind_eq_some_iff.2 ⟨_, RoundTrip.string.defaulted h₆ rfl rfl, ?_⟩
    refine Option.bind_eq_some_iff.2 ⟨_, RoundTrip.string.defaulted h₇ rfl rfl, ?_⟩
    refine Option.bind_eq_some_iff.2 ⟨_, hword.defaulted h₈ rfl rfl, ?_⟩
    refine Option.bind_eq_some_iff.2 ⟨_, hword.defaulted h₉ rfl rfl, ?_⟩
    refine Option.bind_eq_some_iff.2 ⟨_, Timestamp.roundTrip.required h₁₀ rfl, ?_⟩
    refine Option.bind_eq_some_iff.2 ⟨_, Timestamp.roundTrip.required h₁₁ rfl, ?_⟩
    refine Option.bind_eq_some_iff.2 ⟨_, hstatus.defaulted h₁₂ rfl rfl, ?_⟩
    refine Option.bind_eq_some_iff.2 ⟨_, hsize.defaulted h₁₃ rfl rfl, ?_⟩
    refine Option.bind_eq_some_iff.2 ⟨_, hkind.defaulted h₁₄ rfl rfl, ?_⟩
    refine Option.bind_eq_some_iff.2 ⟨_, htext.defaulted h₁₅ rfl rfl, ?_⟩
    refine Option.bind_eq_some_iff.2 ⟨_, hsanction.defaulted h₁₆ rfl rfl, ?_⟩
    rfl

end EndpointObservation

namespace RequestError

theorem roundTrip : RoundTrip ofJson? toJson where
  exact e := by
    refine .object ?_
    simp only [List.forall_mem_cons]
    exact ⟨.string _, .string _, List.forall_mem_nil _⟩
  back j e h := by
    have hkinds := RoundTrip.named RequestErrorKind.ofName?_name
    obtain ⟨r, -, h⟩ := Option.bind_eq_some_iff.1 h
    obtain ⟨kind, hkind, h⟩ := Option.bind_eq_some_iff.1 h
    obtain ⟨details, hdetails, h⟩ := Option.bind_eq_some_iff.1 h
    cases h
    refine Json.Record.reading rfl (by decide) ?_
    refine Option.bind_eq_some_iff.2 ⟨_, hkinds.required hkind rfl, ?_⟩
    refine Option.bind_eq_some_iff.2 ⟨_, RoundTrip.string.required hdetails rfl, ?_⟩
    rfl

end RequestError

namespace RequestObservations

theorem roundTrip : RoundTrip ofJson? toJson where
  exact o := by
    refine .object ?_
    simp only [List.forall_mem_cons]
    exact ⟨Uuid.roundTrip.exact _, .string _, (RequestError.roundTrip.nullable nofun).exact o.requestError,
      EndpointObservation.roundTrip.listOf.exact o.endpointObservations, List.forall_mem_nil _⟩
  back j o h := by
    have herror := RequestError.roundTrip.nullable nofun
    obtain ⟨r, -, h⟩ := Option.bind_eq_some_iff.1 h
    obtain ⟨requestId, hrequestId, h⟩ := Option.bind_eq_some_iff.1 h
    obtain ⟨serviceId, hserviceId, h⟩ := Option.bind_eq_some_iff.1 h
    obtain ⟨requestError, hrequestError, h⟩ := Option.bind_eq_some_iff.1 h
    obtain ⟨endpointObservations, hobservations, h⟩ := Option.bind_eq_some_iff.1 h
    cases h
    refine Json.Record.reading rfl (by decide) ?_
    refine Option.bind_eq_some_iff.2 ⟨_, Uuid.roundTrip.required hrequestId rfl, ?_⟩
    refine Option.bind_eq_some_iff.2 ⟨_, RoundTrip.string.required hserviceId rfl, ?_⟩
    refine Option.bind_eq_some_iff.2 ⟨_, herror.defaulted hrequestError rfl rfl, ?_⟩
    refine Option.bind_eq_some_iff.2
      ⟨_, EndpointObservation.roundTrip.listOf.defaulted hobservations rfl rfl, ?_⟩
    rfl

end RequestObservations

/-- Whatever text a session or the observations of a request are read from, an equal value is read from the
text that is written for it, and writing that one gives the same text. -/
theorem rewriting_stable (text : String) :
    (∀ s, (Json.parse? text).bind Session.ofJson? = some s →
      (Json.parse? s.toJson.render).bind Session.ofJson? = some s ∧
        ∀ s', (Json.parse? s.toJson.render).bind Session.ofJson? = some s' →
          s'.toJson.render = s.toJson.render) ∧
    ∀ o, (Json.parse? text).bind RequestObservations.ofJson? = some o →
      (Json.parse? o.toJson.render).bind RequestObservations.ofJson? = some o ∧
        ∀ o', (Json.parse? o.toJson.render).bind RequestObservations.ofJson? = some o' →
          o'.toJson.render = o.toJson.render :=
  ⟨fun _ given => Session.roundTrip.stable given, fun _ given => RequestObservations.roundTrip.stable given⟩

/-- A session as an array that leaves its suppliers out, with escapes and a field that nobody knows. -/
def sessionText : String :=
  "[[\"s\\u00e9\\\"1\",\"eth\",\"app\\u0001\",1,18446744073709551615],\x7b\"stake\":1.5e3,\"address\":\"app\"\x7d]"

/-- Observations as an array, with a leap second away from universal time, a year of five digits and a
sanction that nobody knows. -/
def observationsText : String :=
  "[\"000000000000000000000000000000FF\",\"\",null,[[\"\",\"\",\"\",false,\"\",\"\",\"\",0,1," ++
  "\"2016-12-31T23:59:60+00:30\",\"+10000-1-1 0:0:0.5Z\",null,null,null,null,\"ban\"]]]"

theorem rewriting_stable_defaulted :
    (∃ s, (Json.parse? sessionText).bind Session.ofJson? = some s ∧
      (Json.parse? s.toJson.render).bind Session.ofJson? = some s) ∧
    ∃ o, (Json.parse? observationsText).bind RequestObservations.ofJson? = some o ∧
      (Json.parse? o.toJson.render).bind RequestObservations.ofJson? = some o := by
  have hsession : ((Json.parse? sessionText).bind Session.ofJson?).isSome = true := by decide +kernel
  have hobservations : ((Json.parse? observationsText).bind RequestObservations.ofJson?).isSome = true := by
    decide +kernel
  obtain ⟨s, hs⟩ := Option.isSome_iff_exists.1 hsession
  obtain ⟨o, ho⟩ := Option.isSome_iff_exists.1 hobservations
  exact ⟨⟨s, hs, ((rewriting_stable sessionText).1 s hs).1⟩, o, ho,
    ((rewriting_stable observationsText).2 o ho).1⟩

end RelayGateway
