import RelayGateway.Text.Digit

/-! # Byte strings

Text stands for its UTF-8 bytes; bytes that are no UTF-8 have no text. Bytes are also written as
pairs of lower-case hexadecimal digits.
-/
namespace RelayGateway

abbrev Bytes := List UInt8

namespace Bytes
open Text (hexDigit hexValue?)

def ofString (s : String) : Bytes := s.toUTF8.data.toList

def text? (bs : Bytes) : Option String := String.fromUTF8? ⟨bs.toArray⟩

def hexChars (bs : Bytes) : List Char :=
  bs.flatMap fun b => [hexDigit (b.toNat / 16), hexDigit (b.toNat % 16)]

def hex (bs : Bytes) : String := String.ofList (hexChars bs)

def ofHexChars? : List Char → Option Bytes
  | [] => some []
  | [_] => none
  | a :: b :: rest =>
    match hexValue? a, hexValue? b, ofHexChars? rest with
    | some a, some b, some bs => some (UInt8.ofNat (a * 16 + b) :: bs)
    | _, _, _ => none

def ofHex? (s : String) : Option Bytes := ofHexChars? s.toList

/-- The eight bytes of a 64-bit word, the most significant first. -/
def ofWord (n : Nat) : Bytes :=
  [56, 48, 40, 32, 24, 16, 8, 0].map fun shift => UInt8.ofNat (n >>> shift)

end Bytes
end RelayGateway
