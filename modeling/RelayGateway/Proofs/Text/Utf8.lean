import Mathlib.Algebra.GroupWithZero.Nat
import Mathlib.Data.List.Infix
import RelayGateway.Bytes
import RelayGateway.Text.Utf8

/-! # Texts and their bytes

What is encoded as UTF-8 is read back as it is. The longest beginning of a text that fits into so many bytes
is cut between two characters, and a character has four bytes at most, so three bytes at most are left over.
-/
namespace RelayGateway.Text

/-! ## Reading back -/

section Reading
variable {k bits missing low high : Nat} {p : Partial} {bs : List UInt8}

theorem toNat_byte (hk : k < 256) : (UInt8.ofNat k).toNat = k := Nat.mod_eq_of_lt hk

theorem charsFrom_cons (p : Option Partial) (b : UInt8) (bs : List UInt8) :
    charsFrom p (b :: bs) = (nextByte p b.toNat).2 ++ charsFrom (nextByte p b.toNat).1 bs := rfl

/-- A byte that begins a character of several. -/
theorem charsFrom_begin (hk : k < 256) (h : Partial.begin? k = some p) (hmissing : p.missing ≠ 0) :
    charsFrom none (UInt8.ofNat k :: bs) = charsFrom (some p) bs := by
  have hnext : nextByte none k = (some p, []) := by
    unfold nextByte firstByte
    dsimp only
    rw [h]
    exact if_neg hmissing
  rw [charsFrom_cons, toNat_byte hk, hnext]
  rfl

/-- A byte in the middle of a character. -/
theorem charsFrom_middle (hk : k < 256) (hlow : low ≤ k) (hhigh : k ≤ high) :
    charsFrom (some ⟨bits, missing + 2, low, high⟩) (UInt8.ofNat k :: bs) =
      charsFrom (some ⟨bits * 64 + k % 64, missing + 1, 0x80, 0xBF⟩) bs := by
  have hnext : nextByte (some ⟨bits, missing + 2, low, high⟩) k =
      (some ⟨bits * 64 + k % 64, missing + 1, 0x80, 0xBF⟩, []) := if_pos ⟨hlow, hhigh⟩
  rw [charsFrom_cons, toNat_byte hk, hnext]
  rfl

/-- The last byte of a character. -/
theorem charsFrom_last (hk : k < 256) (hlow : low ≤ k) (hhigh : k ≤ high) :
    charsFrom (some ⟨bits, 1, low, high⟩) (UInt8.ofNat k :: bs) =
      Char.ofNat (bits * 64 + k % 64) :: charsFrom none bs := by
  have hnext : nextByte (some ⟨bits, 1, low, high⟩) k =
      (none, [Char.ofNat (bits * 64 + k % 64)]) := if_pos ⟨hlow, hhigh⟩
  rw [charsFrom_cons, toNat_byte hk, hnext]
  rfl

theorem begin?_two (hlow : 0xC2 ≤ k) (hhigh : k < 0xE0) :
    Partial.begin? k = some ⟨k - 0xC0, 1, 0x80, 0xBF⟩ := by
  unfold Partial.begin?
  rw [if_neg (by omega), if_neg (by omega), if_pos hhigh]

theorem begin?_three (hlow : 0xE0 ≤ k) (hhigh : k < 0xF0) : Partial.begin? k =
    some ⟨k - 0xE0, 2, if k = 0xE0 then 0xA0 else 0x80, if k = 0xED then 0x9F else 0xBF⟩ := by
  unfold Partial.begin?
  rw [if_neg (by omega), if_neg (by omega), if_neg (by omega), if_pos hhigh]

theorem begin?_four (hlow : 0xF0 ≤ k) (hhigh : k < 0xF5) : Partial.begin? k =
    some ⟨k - 0xF0, 3, if k = 0xF0 then 0x90 else 0x80, if k = 0xF4 then 0x8F else 0xBF⟩ := by
  unfold Partial.begin?
  rw [if_neg (by omega), if_neg (by omega), if_neg (by omega), if_neg (by omega), if_pos hhigh]

/-- The bytes of a character are read as that character. -/
theorem charsFrom_encode (c : Char) (bs : List UInt8) :
    charsFrom none (String.utf8EncodeChar c ++ bs) = c :: charsFrom none bs := by
  have hvalid : c.val.toNat < 0xD800 ∨ (0xDFFF < c.val.toNat ∧ c.val.toNat < 0x110000) := c.valid
  have hofNat : Char.ofNat c.val.toNat = c := Char.ofNat_toNat c
  unfold String.utf8EncodeChar
  generalize c.val.toNat = n at hvalid hofNat
  subst hofNat
  dsimp only
  -- By the number of bytes; the digits to base 64 that they hold make up the number again.
  split
  · have hnext : nextByte none n = (none, [Char.ofNat n]) := by
      unfold nextByte firstByte
      dsimp only
      rw [show Partial.begin? n = some ⟨n, 0, 0, 0⟩ from if_pos (by omega)]
      rfl
    rw [List.singleton_append, charsFrom_cons, toNat_byte (by omega), hnext]
    rfl
  split
  · have hn : (n / 64 % 32 + 192 - 0xC0) * 64 + (n % 64 + 128) % 64 = n := by omega
    rw [List.cons_append, List.singleton_append,
      charsFrom_begin (by omega) (begin?_two (by omega) (by omega)) nofun,
      charsFrom_last (by omega) (by omega) (by omega), hn]
  split
  · have hn : ((n / 4096 % 16 + 224 - 0xE0) * 64 + (n / 64 % 64 + 128) % 64) * 64 +
        (n % 64 + 128) % 64 = n := by omega
    rw [List.cons_append, List.cons_append, List.singleton_append,
      charsFrom_begin (by omega) (begin?_three (by omega) (by omega)) nofun,
      charsFrom_middle (by omega) (by split <;> omega) (by split <;> omega),
      charsFrom_last (by omega) (by omega) (by omega), hn]
  · have hn : (((n / 262144 % 8 + 240 - 0xF0) * 64 + (n / 4096 % 64 + 128) % 64) * 64 +
        (n / 64 % 64 + 128) % 64) * 64 + (n % 64 + 128) % 64 = n := by omega
    rw [List.cons_append, List.cons_append, List.cons_append, List.singleton_append,
      charsFrom_begin (by omega) (begin?_four (by omega) (by omega)) nofun,
      charsFrom_middle (by omega) (by split <;> omega) (by split <;> omega),
      charsFrom_middle (by omega) (by omega) (by omega),
      charsFrom_last (by omega) (by omega) (by omega), hn]

theorem charsFrom_flatMap (cs : List Char) : charsFrom none (cs.flatMap String.utf8EncodeChar) = cs := by
  induction cs with
  | nil => rfl
  | cons c cs ih => rw [List.flatMap_cons, charsFrom_encode, ih]

/-- The bytes of a text are read as that text. -/
theorem lossy_ofString (s : String) : lossy (Bytes.ofString s) = s := by
  have hbytes : Bytes.ofString s = s.toList.flatMap String.utf8EncodeChar := by
    have hencoded : s.toUTF8 = (s.toList.flatMap String.utf8EncodeChar).toByteArray := by
      conv => lhs; rw [← String.ofList_toList (s := s)]
      exact String.toByteArray_ofList
    unfold Bytes.ofString
    rw [hencoded, List.data_toByteArray]
  unfold lossy
  rw [hbytes, charsFrom_flatMap, String.ofList_toList]

end Reading

/-! ## What fits -/

def byteCount (cs : List Char) : Nat := (cs.map Char.utf8Size).sum

variable {room : Nat} {cs : List Char}

theorem utf8ByteSize_ofList (cs : List Char) : (String.ofList cs).utf8ByteSize = byteCount cs := by
  induction cs with
  | nil => rfl
  | cons c cs ih =>
    have hsplit : String.ofList (c :: cs) = String.singleton c ++ String.ofList cs := by
      rw [String.singleton_eq_ofList, ← String.ofList_append, List.singleton_append]
    rw [hsplit, String.utf8ByteSize_append, String.utf8ByteSize_singleton, ih]
    rfl

theorem fitting_prefix (room : Nat) (cs : List Char) : fitting room cs <+: cs := by
  induction cs generalizing room with
  | nil => exact List.nil_prefix
  | cons c cs ih =>
    unfold fitting
    split
    · exact List.cons_prefix_cons.2 ⟨rfl, ih _⟩
    · exact List.nil_prefix

theorem byteCount_fitting_le (room : Nat) (cs : List Char) : byteCount (fitting room cs) ≤ room := by
  induction cs generalizing room with
  | nil => exact Nat.zero_le room
  | cons c cs ih =>
    unfold fitting
    split
    · have hrest := ih (room - c.utf8Size)
      unfold byteCount at hrest ⊢
      rw [List.map_cons, List.sum_cons]
      omega
    · exact Nat.zero_le room

/-- What is left over is less than a character. -/
theorem lt_byteCount_fitting (h : room < byteCount cs) : room < byteCount (fitting room cs) + 4 := by
  induction cs generalizing room with
  | nil => cases h
  | cons c cs ih =>
    unfold byteCount at h ih ⊢
    unfold fitting
    rw [List.map_cons, List.sum_cons] at h
    split
    · have hrest : room - c.utf8Size < ((fitting (room - c.utf8Size) cs).map Char.utf8Size).sum + 4 :=
        ih (by omega)
      rw [List.map_cons, List.sum_cons]
      omega
    · have hsize := c.utf8Size_le_four
      show room < 0 + 4
      omega

end RelayGateway.Text
