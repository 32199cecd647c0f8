import RelayGateway.Text.Digit
import RelayGateway.Text.Split

/-! # Sets of characters

A set of characters is kept as ranges of code points. Large ones are written as text: the ranges in
hexadecimal with blanks between them, as in `41-5a 61-7a aa`.
-/
namespace RelayGateway.Text

structure CharSet where
  ranges : List (Nat × Nat)

def codePoint (cs : List Char) : Nat := (numberOf? 16 cs).getD 0

namespace CharSet

def contains (s : CharSet) (c : Char) : Bool :=
  s.ranges.any fun r => r.1 ≤ c.toNat && c.toNat ≤ r.2

def rangeOf (cs : List Char) : Nat × Nat :=
  let low := codePoint (cs.takeWhile (· ≠ '-'))
  match cs.dropWhile (· ≠ '-') with
  | _ :: high => (low, codePoint high)
  | [] => (low, low)

def ofText (text : String) : CharSet :=
  ⟨(words (fun c => c = ' ' || c = '\n') text.toList).map rangeOf⟩

end CharSet

def classOf? {α : Type} (classes : List (α × CharSet)) (c : Char) : Option α :=
  (classes.find? fun e => e.2.contains c).map Prod.fst

end RelayGateway.Text
