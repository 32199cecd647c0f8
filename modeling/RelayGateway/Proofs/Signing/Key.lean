import RelayGateway.Proofs.Bytes
import RelayGateway.Signing.Key
import RelayGateway.Word

/-! # What a signature key stands for

The bytes that are digested can be read back: each field is preceded by its length, which is a word.
So two relays with one key are for the same data, unless their digests collide.
-/
namespace RelayGateway

theorem Bytes.length_ofWord (n : Nat) : (Bytes.ofWord n).length = 8 := rfl

theorem Bytes.ofWord_inj {n m : Nat} (hn : n < wordBound) (hm : m < wordBound)
    (h : Bytes.ofWord n = Bytes.ofWord m) : n = m := by
  have hbyte : ∀ s, UInt8.ofNat (n >>> s) = UInt8.ofNat (m >>> s) →
      n / 2 ^ s % 256 = m / 2 ^ s % 256 := by
    intro s hs
    have ht := congrArg UInt8.toNat hs
    simpa [Nat.shiftRight_eq_div_pow] using ht
  simp only [Bytes.ofWord, List.map_cons, List.map_nil, List.cons.injEq, and_true] at h
  obtain ⟨h₇, h₆, h₅, h₄, h₃, h₂, h₁, h₀⟩ := h
  have h₇ := hbyte _ h₇
  have h₆ := hbyte _ h₆
  have h₅ := hbyte _ h₅
  have h₄ := hbyte _ h₄
  have h₃ := hbyte _ h₃
  have h₂ := hbyte _ h₂
  have h₁ := hbyte _ h₁
  have h₀ := hbyte _ h₀
  unfold wordBound at hn hm
  omega

/-- A field can be told from what follows it. -/
theorem lengthPrefixed_append_inj {a b s t : Bytes} (ha : a.length < wordBound)
    (hb : b.length < wordBound) (h : lengthPrefixed a ++ s = lengthPrefixed b ++ t) :
    a = b ∧ s = t := by
  unfold lengthPrefixed at h
  rw [List.append_assoc, List.append_assoc] at h
  obtain ⟨hword, hrest⟩ := List.append_inj h (by rw [Bytes.length_ofWord, Bytes.length_ofWord])
  exact List.append_inj hrest (Bytes.ofWord_inj ha hb hword)

/-- Fields that follow one another can be told apart, however many there are and whatever bytes they hold. -/
theorem flatMap_lengthPrefixed_inj {fields fields' : List Bytes}
    (hf : ∀ f ∈ fields, f.length < wordBound) (hf' : ∀ f ∈ fields', f.length < wordBound)
    (h : fields.flatMap lengthPrefixed = fields'.flatMap lengthPrefixed) : fields = fields' := by
  induction fields generalizing fields' with
  | nil =>
    cases fields' with
    | nil => rfl
    | cons f rest => cases h
  | cons f rest ih =>
    cases fields' with
    | nil => cases h
    | cons f' rest' =>
      rw [List.flatMap_cons, List.flatMap_cons] at h
      rw [List.forall_mem_cons] at hf hf'
      obtain ⟨rfl, hrest⟩ := lengthPrefixed_append_inj hf.1 hf'.1 h
      rw [ih hf.2 hf'.2 hrest]

theorem signatureInput_eq_flatMap (sessionId supplier appAddress payload : Bytes) :
    signatureInput sessionId supplier appAddress payload =
      [sessionId, supplier, appAddress, payload].flatMap lengthPrefixed := by
  simp [signatureInput]

/-- The bytes that are digested determine the four fields. -/
theorem signatureInput_inj {s u a p s' u' a' p' : Bytes}
    (hf : ∀ f ∈ [s, u, a, p], f.length < wordBound)
    (hf' : ∀ f ∈ [s', u', a', p'], f.length < wordBound)
    (h : signatureInput s u a p = signatureInput s' u' a' p') :
    s = s' ∧ u = u' ∧ a = a' ∧ p = p' := by
  rw [signatureInput_eq_flatMap, signatureInput_eq_flatMap] at h
  simpa using flatMap_lengthPrefixed_inj hf hf' h

structure RelayData where
  sessionId : String
  supplier : String
  appAddress : String
  payload : Bytes
deriving DecidableEq

namespace RelayData

def input (d : RelayData) : Bytes :=
  signatureInput (Bytes.ofString d.sessionId) (Bytes.ofString d.supplier)
    (Bytes.ofString d.appAddress) d.payload

def key (d : RelayData) : SignatureKey := ⟨Sha256.digest d.input⟩

/-- Lengths are words, as they are for all data in memory. -/
structure Sized (d : RelayData) : Prop where
  sessionId : (Bytes.ofString d.sessionId).length < wordBound
  supplier : (Bytes.ofString d.supplier).length < wordBound
  appAddress : (Bytes.ofString d.appAddress).length < wordBound
  payload : d.payload.length < wordBound

theorem Sized.fields {d : RelayData} (hd : d.Sized) :
    ∀ f ∈ [Bytes.ofString d.sessionId, Bytes.ofString d.supplier, Bytes.ofString d.appAddress, d.payload],
      f.length < wordBound := by
  simpa using And.intro hd.sessionId (And.intro hd.supplier (And.intro hd.appAddress hd.payload))

theorem eq_of_input {d d' : RelayData} (hd : d.Sized) (hd' : d'.Sized) (h : d.input = d'.input) :
    d = d' := by
  obtain ⟨hsession, hsupplier, happ, hpayload⟩ := signatureInput_inj hd.fields hd'.fields h
  obtain ⟨_, _, _, _⟩ := d
  obtain ⟨_, _, _, _⟩ := d'
  cases Bytes.ofString_inj hsession
  cases Bytes.ofString_inj hsupplier
  cases Bytes.ofString_inj happ
  cases hpayload
  rfl

/-- No two of the data have different inputs with the same digest. -/
def CollisionFree (l : List RelayData) : Prop :=
  ∀ d ∈ l, ∀ d' ∈ l, Sha256.digest d.input = Sha256.digest d'.input → d.input = d'.input

theorem CollisionFree.eq_of_key {l : List RelayData} (hfree : CollisionFree l)
    (hsized : ∀ d ∈ l, d.Sized) {d d' : RelayData} (hd : d ∈ l) (hd' : d' ∈ l)
    (h : d.key = d'.key) : d = d' :=
  eq_of_input (hsized d hd) (hsized d' hd') (hfree d hd d' hd' (SignatureKey.mk.inj h))

theorem CollisionFree.subset {l l' : List RelayData} (hfree : CollisionFree l') (hsub : l ⊆ l') :
    CollisionFree l :=
  fun d hd d' hd' => hfree d (hsub hd) d' (hsub hd')

end RelayData

def RelayRequest.data (r : RelayRequest) : RelayData :=
  ⟨r.header.sessionId, r.supplier, r.header.appAddress, r.payload⟩

/-- The key of a call is that of its data when its header names its application. -/
theorem SignatureKey.ofRequest_eq {r : RelayRequest} {app : Application}
    (h : r.header.appAddress = app.address) : SignatureKey.ofRequest r app = r.data.key := by
  unfold SignatureKey.ofRequest SignatureKey.of
  rw [← h]
  rfl

/-- The bytes that are digested are the same for four fields and four others only when each field is. So two
keys are the same only for the same data, or when two different inputs have one digest. -/
theorem signatureInput_separates :
    (∀ s u a p s' u' a' p' : Bytes, (∀ f ∈ [s, u, a, p], f.length < wordBound) →
      (∀ f ∈ [s', u', a', p'], f.length < wordBound) →
      (signatureInput s u a p = signatureInput s' u' a' p' ↔ s = s' ∧ u = u' ∧ a = a' ∧ p = p')) ∧
    ∀ d d' : RelayData, d.Sized → d'.Sized →
      (SignatureKey.of d.sessionId d.supplier d.appAddress d.payload =
          SignatureKey.of d'.sessionId d'.supplier d'.appAddress d'.payload ↔
        d = d' ∨ d.input ≠ d'.input ∧ Sha256.digest d.input = Sha256.digest d'.input) := by
  constructor
  · intro s u a p s' u' a' p' hf hf'
    constructor
    · exact signatureInput_inj hf hf'
    · rintro ⟨rfl, rfl, rfl, rfl⟩
      rfl
  · intro d d' hd hd'
    constructor
    · intro h
      by_cases hinput : d.input = d'.input
      · exact .inl (RelayData.eq_of_input hd hd' hinput)
      · exact .inr ⟨hinput, SignatureKey.mk.inj h⟩
    · rintro (rfl | ⟨-, hdigest⟩)
      · rfl
      · exact congrArg SignatureKey.mk hdigest

/-- A byte that moves from one field into the next changes what is digested, also where a field begins like
a length. -/
theorem signatureInput_separates_shifted :
    let d : RelayData := ⟨"ab", "c", "app", []⟩
    let d' : RelayData := ⟨"a", "bc", "app", []⟩
    signatureInput (Bytes.ofWord 1) [7] [] [] ≠ signatureInput [] (Bytes.ofWord 1 ++ [7]) [] [] ∧
      d.Sized ∧ d'.Sized ∧
      (d.key = d'.key ↔ d.input ≠ d'.input ∧ Sha256.digest d.input = Sha256.digest d'.input) := by
  intro d d'
  obtain ⟨hinput, hkey⟩ := signatureInput_separates
  have hd : d.Sized := ⟨by decide, by decide, by decide, by decide⟩
  have hd' : d'.Sized := ⟨by decide, by decide, by decide, by decide⟩
  refine ⟨?_, hd, hd', (hkey d d' hd hd').trans (or_iff_right (by decide))⟩
  rw [ne_eq, hinput _ _ _ _ _ _ _ _ (by decide) (by decide)]
  decide

end RelayGateway
