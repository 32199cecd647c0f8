import RelayGateway.Proofs.Json.Codec
import RelayGateway.Session.Codec

/-! # Sessions that are read and written

Whatever form a session was given in, what was read of it is read again from what is written for it.
-/
namespace RelayGateway
open Json (RoundTrip)

namespace RpcType

theorem roundTrip : RoundTrip ofJson? toJson := .named ofName?_name

end RpcType

namespace Application

theorem roundTrip : RoundTrip ofJson? toJson where
  exact a := by
    refine .object ?_
    simp only [List.forall_mem_cons]
    exact ⟨.string _, .string _, RoundTrip.string.listOf.exact a.serviceIds, List.forall_mem_nil _⟩
  back j a h := by
    obtain ⟨r, -, h⟩ := Option.bind_eq_some_iff.1 h
    obtain ⟨address, haddress, h⟩ := Option.bind_eq_some_iff.1 h
    obtain ⟨publicKey, hpublicKey, h⟩ := Option.bind_eq_some_iff.1 h
    obtain ⟨serviceIds, hserviceIds, h⟩ := Option.bind_eq_some_iff.1 h
    cases h
    refine Json.Record.reading rfl (by decide) ?_
    refine Option.bind_eq_some_iff.2 ⟨_, RoundTrip.string.required haddress rfl, ?_⟩
    refine Option.bind_eq_some_iff.2 ⟨_, RoundTrip.string.defaulted hpublicKey rfl rfl, ?_⟩
    refine Option.bind_eq_some_iff.2 ⟨_, RoundTrip.string.listOf.defaulted hserviceIds rfl rfl, ?_⟩
    rfl

end Application

namespace SupplierUrl

theorem roundTrip : RoundTrip ofJson? toJson where
  exact u := by
    refine .object ?_
    simp only [List.forall_mem_cons]
    exact ⟨RpcType.roundTrip.exact _, .string _, List.forall_mem_nil _⟩
  back j u h := by
    obtain ⟨r, -, h⟩ := Option.bind_eq_some_iff.1 h
    obtain ⟨rpcType, hrpcType, h⟩ := Option.bind_eq_some_iff.1 h
    obtain ⟨url, hurl, h⟩ := Option.bind_eq_some_iff.1 h
    cases h
    refine Json.Record.reading rfl (by decide) ?_
    refine Option.bind_eq_some_iff.2 ⟨_, RpcType.roundTrip.required hrpcType rfl, ?_⟩
    refine Option.bind_eq_some_iff.2 ⟨_, RoundTrip.string.required hurl rfl, ?_⟩
    rfl

end SupplierUrl

namespace SupplierEndpoints

theorem roundTrip : RoundTrip ofJson? toJson where
  exact s := by
    refine .object ?_
    simp only [List.forall_mem_cons]
    exact ⟨.string _, SupplierUrl.roundTrip.listOf.exact s.urls, List.forall_mem_nil _⟩
  back j s h := by
    obtain ⟨r, -, h⟩ := Option.bind_eq_some_iff.1 h
    obtain ⟨supplier, hsupplier, h⟩ := Option.bind_eq_some_iff.1 h
    obtain ⟨urls, hurls, h⟩ := Option.bind_eq_some_iff.1 h
    cases h
    refine Json.Record.reading rfl (by decide) ?_
    refine Option.bind_eq_some_iff.2 ⟨_, RoundTrip.string.required hsupplier rfl, ?_⟩
    refine Option.bind_eq_some_iff.2 ⟨_, SupplierUrl.roundTrip.listOf.required hurls rfl, ?_⟩
    rfl

end SupplierEndpoints

namespace SessionHeader

theorem roundTrip : RoundTrip ofJson? toJson where
  exact h := by
    refine .object ?_
    simp only [List.forall_mem_cons]
    exact ⟨.string _, .string _, .string _, .natural _, .natural _, List.forall_mem_nil _⟩
  back j s h := by
    have hnatural := RoundTrip.natural wordBound
    obtain ⟨r, -, h⟩ := Option.bind_eq_some_iff.1 h
    obtain ⟨sessionId, hsessionId, h⟩ := Option.bind_eq_some_iff.1 h
    obtain ⟨serviceId, hserviceId, h⟩ := Option.bind_eq_some_iff.1 h
    obtain ⟨appAddress, happAddress, h⟩ := Option.bind_eq_some_iff.1 h
    obtain ⟨startHeight, hstartHeight, h⟩ := Option.bind_eq_some_iff.1 h
    obtain ⟨endHeight, hendHeight, h⟩ := Option.bind_eq_some_iff.1 h
    cases h
    refine Json.Record.reading rfl (by decide) ?_
    refine Option.bind_eq_some_iff.2 ⟨_, RoundTrip.string.required hsessionId rfl, ?_⟩
    refine Option.bind_eq_some_iff.2 ⟨_, RoundTrip.string.required hserviceId rfl, ?_⟩
    refine Option.bind_eq_some_iff.2 ⟨_, RoundTrip.string.required happAddress rfl, ?_⟩
    refine Option.bind_eq_some_iff.2 ⟨_, hnatural.required hstartHeight rfl, ?_⟩
    refine Option.bind_eq_some_iff.2 ⟨_, hnatural.required hendHeight rfl, ?_⟩
    rfl

end SessionHeader

namespace Session

theorem roundTrip : RoundTrip ofJson? toJson where
  exact s := by
    refine .object ?_
    simp only [List.forall_mem_cons]
    exact ⟨SessionHeader.roundTrip.exact s.header,
      (Application.roundTrip.nullable nofun).exact s.application,
      SupplierEndpoints.roundTrip.listOf.exact s.suppliers, List.forall_mem_nil _⟩
  back j s h := by
    have happlication := Application.roundTrip.nullable nofun
    obtain ⟨r, -, h⟩ := Option.bind_eq_some_iff.1 h
    obtain ⟨header, hheader, h⟩ := Option.bind_eq_some_iff.1 h
    obtain ⟨application, hgiven, h⟩ := Option.bind_eq_some_iff.1 h
    obtain ⟨suppliers, hsuppliers, h⟩ := Option.bind_eq_some_iff.1 h
    cases h
    refine Json.Record.reading rfl (by decide) ?_
    refine Option.bind_eq_some_iff.2 ⟨_, SessionHeader.roundTrip.required hheader rfl, ?_⟩
    refine Option.bind_eq_some_iff.2 ⟨_, happlication.defaulted hgiven rfl rfl, ?_⟩
    refine Option.bind_eq_some_iff.2
      ⟨_, SupplierEndpoints.roundTrip.listOf.defaulted hsuppliers rfl rfl, ?_⟩
    rfl

end Session
end RelayGateway
