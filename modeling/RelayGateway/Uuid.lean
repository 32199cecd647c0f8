import RelayGateway.Bytes
import RelayGateway.Word

/-! # Universally unique identifiers

Sixteen bytes. They are read as 32 hexadecimal digits, or with hyphens in four places and then also
in braces or after `urn:uuid:`, and written with hyphens in lower case.
-/
namespace RelayGateway

structure Uuid where
  bytes : Bytes
deriving DecidableEq, Inhabited

namespace Uuid

def hyphenated? (cs : List Char) : Option Bytes :=
  if cs.length = 36 ∧ cs[8]? = some '-' ∧ cs[13]? = some '-' ∧ cs[18]? = some '-' ∧
      cs[23]? = some '-' then
    Bytes.ofHexChars? (cs.take 8 ++ (cs.drop 9).take 4 ++ (cs.drop 14).take 4 ++
      (cs.drop 19).take 4 ++ cs.drop 24)
  else none

def urn : List Char := ['u', 'r', 'n', ':', 'u', 'u', 'i', 'd', ':']

def bytesOf? (cs : List Char) : Option Bytes :=
  match cs.length with
  | 32 => Bytes.ofHexChars? cs
  | 36 => hyphenated? cs
  | 38 =>
    if cs.head? = some '\x7b' ∧ cs[37]? = some '\x7d' then hyphenated? ((cs.drop 1).take 36)
    else none
  | 45 => if cs.take 9 = urn then hyphenated? (cs.drop 9) else none
  | _ => none

def parse? (text : String) : Option Uuid := (bytesOf? text.toList).map Uuid.mk

def render (u : Uuid) : String :=
  let ds := Bytes.hexChars u.bytes
  String.ofList (ds.take 8 ++ '-' :: ((ds.drop 8).take 4 ++ '-' :: ((ds.drop 12).take 4 ++ '-' ::
    ((ds.drop 16).take 4 ++ '-' :: ds.drop 20))))

def ofNat (n : Nat) : Uuid := ⟨Bytes.ofWord (n / wordBound) ++ Bytes.ofWord n⟩

end Uuid
end RelayGateway
