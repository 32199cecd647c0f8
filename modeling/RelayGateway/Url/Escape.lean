import RelayGateway.Text.Digit

/-! # Escapes in URLs

A character that may not stand somewhere in a URL is written as its bytes in UTF-8, each as a percent
sign and two hexadecimal digits.
-/
namespace RelayGateway.Url
open Text (hexValue?)

/-! ## Writing -/

def escapeByte (b : UInt8) : List Char :=
  ['%', (Text.hexDigit (b.toNat / 16)).toUpper, (Text.hexDigit (b.toNat % 16)).toUpper]

def escape (marks : List Char) (cs : List Char) : List Char :=
  cs.flatMap fun c =>
    if c < ' ' || '~' < c || marks.contains c then
      (String.singleton c).toUTF8.data.toList.flatMap escapeByte
    else [c]

/-! ## Reading -/

def escapedByte? : List UInt8 → Option UInt8
  | b :: x :: y :: _ =>
    if b = 37 then
      match hexValue? (Char.ofNat x.toNat), hexValue? (Char.ofNat y.toNat) with
      | some x, some y => some (UInt8.ofNat (x * 16 + y))
      | _, _ => none
    else none
  | _ => none

/-- Decodes escaped bytes; the first argument counts the bytes of an escape still to be skipped. -/
def percentDecode : Nat → List UInt8 → List UInt8
  | _, [] => []
  | skip + 1, _ :: rest => percentDecode skip rest
  | 0, b :: rest =>
    match escapedByte? (b :: rest) with
    | some e => e :: percentDecode 2 rest
    | none => b :: percentDecode 0 rest

end RelayGateway.Url
