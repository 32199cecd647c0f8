import RelayGateway.Bytes

/-! # Bytes of texts and hexadecimal digits

The bytes of a text are read back as that text, and the digits of bytes as those bytes.
-/
namespace RelayGateway.Bytes
open Text (hexDigit hexValue? hexValue?_hexDigit)

theorem text?_ofString (s : String) : text? (ofString s) = some s := dif_pos s.isValidUTF8

theorem ofString_inj {s t : String} (h : ofString s = ofString t) : s = t :=
  Option.some.inj ((text?_ofString s).symm.trans (h ▸ text?_ofString t))

theorem ofHexChars?_hexChars (bs : Bytes) : ofHexChars? (hexChars bs) = some bs := by
  induction bs with
  | nil => rfl
  | cons b bs ih =>
    have hlt : b.toNat < 256 := b.toNat_lt
    have hhigh := hexValue?_hexDigit (b.toNat / 16) (by omega)
    have hlow := hexValue?_hexDigit (b.toNat % 16) (by omega)
    have hbyte : b.toNat / 16 * 16 + b.toNat % 16 = b.toNat := by omega
    show ofHexChars? (hexDigit (b.toNat / 16) :: hexDigit (b.toNat % 16) :: hexChars bs) = _
    rw [ofHexChars?, hhigh, hlow, ih]
    dsimp only
    rw [hbyte, UInt8.ofNat_toNat]

theorem ofHex?_hex (bs : Bytes) : ofHex? (hex bs) = some bs := by
  unfold ofHex? hex
  rw [String.toList_ofList, ofHexChars?_hexChars]

theorem hex_inj {bs bs' : Bytes} (h : hex bs = hex bs') : bs = bs' :=
  Option.some.inj ((ofHex?_hex bs).symm.trans (h ▸ ofHex?_hex bs'))

theorem length_hexChars (bs : Bytes) : (hexChars bs).length = 2 * bs.length := by
  induction bs with
  | nil => rfl
  | cons b bs ih =>
    show (hexChars bs).length + 2 = 2 * (bs.length + 1)
    omega

theorem length_of_ofHexChars? :
    ∀ {cs : List Char} {bs : Bytes}, ofHexChars? cs = some bs → cs.length = 2 * bs.length
  | [], _, h => by
    cases h
    rfl
  | [_], _, h => by cases h
  | a :: b :: rest, _, h => by
    rw [ofHexChars?] at h
    split at h
    · next hbs =>
      cases h
      have hrest := length_of_ofHexChars? hbs
      simp only [List.length_cons]
      omega
    · cases h

end RelayGateway.Bytes
