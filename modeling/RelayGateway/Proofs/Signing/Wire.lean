import RelayGateway.Proofs.Bytes
import RelayGateway.Proofs.Json.Codec
import RelayGateway.Signing.Request

/-! # Signed relays on the wire

The body that is sent for a signed relay is the text of one object, from which every field can be read back.
No two relays have one body.
-/
namespace RelayGateway.SignedRelay

variable {a b : SignedRelay}

theorem exact_toJson (s : SignedRelay) : s.toJson.Exact := by
  refine .object fun m hm => ?_
  simp only [List.mem_cons, List.not_mem_nil, or_false] at hm
  rcases hm with rfl | rfl | rfl | rfl | rfl | rfl | rfl | rfl
  all_goals constructor

theorem toJson_injective (h : a.toJson = b.toJson) : a = b := by
  obtain ⟨⟨⟨sessionId, serviceId, appAddress, startHeight, endHeight⟩, supplier, payload⟩, signature⟩ := a
  obtain ⟨⟨⟨sessionId', serviceId', appAddress', startHeight', endHeight'⟩, supplier', payload'⟩,
    signature'⟩ := b
  simp only [toJson, Json.object.injEq, List.cons.injEq, Prod.mk.injEq, Json.string.injEq,
    Json.natural.injEq, true_and, and_true] at h
  obtain ⟨rfl, rfl, rfl, rfl, rfl, rfl, hpayload, hsignature⟩ := h
  cases Bytes.hex_inj hpayload
  cases Bytes.hex_inj hsignature
  rfl

theorem ofJson?_toJson (s : SignedRelay) (start : s.request.header.startHeight < wordBound)
    (ends : s.request.header.endHeight < wordBound) : ofJson? s.toJson = some s := by
  have hnatural : ∀ {n}, n < wordBound → Json.natural? wordBound (.natural n) = some n := fun h => if_pos h
  unfold ofJson? toJson
  rw [Json.Record.of?_object (by rfl) (by decide)]
  simp only [Option.bind_eq_bind, Option.bind_some, Json.Record.required, Fields.required,
    List.lookup_cons, String.reduceBEq, Json.string?, hnatural start, hnatural ends, Bytes.ofHex?_hex]
  rfl

theorem text?_encode (s : SignedRelay) : Bytes.text? s.encode = some s.toJson.render :=
  Bytes.text?_ofString _

theorem parse?_render_toJson (s : SignedRelay) : Json.parse? s.toJson.render = some s.toJson :=
  Json.parse?_render s.exact_toJson

/-- Whoever reads a body has the relay that was sent. -/
theorem decode?_encode (s : SignedRelay) (start : s.request.header.startHeight < wordBound)
    (ends : s.request.header.endHeight < wordBound) : decode? s.encode = some s := by
  unfold decode?
  rw [text?_encode, Option.bind_eq_bind, Option.bind_some, parse?_render_toJson, Option.bind_eq_bind,
    Option.bind_some]
  exact ofJson?_toJson s start ends

/-- Bodies tell relays apart: relays with one body are equal, every body is the text of an object, and the
relay is read back from it. -/
theorem encode_unambiguous (a : SignedRelay) : (∀ b, a.encode = b.encode → a = b) ∧
    (∃ text, Bytes.text? a.encode = some text ∧ Json.parse? text = some a.toJson) ∧
    (a.request.header.startHeight < wordBound → a.request.header.endHeight < wordBound →
      decode? a.encode = some a) := by
  refine ⟨fun b h => ?_, ⟨_, text?_encode a, parse?_render_toJson a⟩, decode?_encode a⟩
  have hrender : a.toJson.render = b.toJson.render := Bytes.ofString_inj h
  exact toJson_injective (Json.render_injective a.exact_toJson b.exact_toJson hrender)

def quoted : SignedRelay where
  request := ⟨⟨"s\"1\\", "eth\n", "\x01app", 0, 18446744073709551615⟩, "node\"", [0, 34, 255]⟩
  signature := [92]

theorem unambiguous_quoted : quoted.request.header.startHeight < wordBound ∧
    quoted.request.header.endHeight < wordBound ∧ decode? quoted.encode = some quoted ∧
    quoted.encode ≠ { quoted with signature := [] }.encode := by
  have hstart : quoted.request.header.startHeight < wordBound := by decide
  have hend : quoted.request.header.endHeight < wordBound := by decide
  refine ⟨hstart, hend, (encode_unambiguous quoted).2.2 hstart hend, fun h => ?_⟩
  exact absurd ((encode_unambiguous quoted).1 _ h) (by decide)

end RelayGateway.SignedRelay
