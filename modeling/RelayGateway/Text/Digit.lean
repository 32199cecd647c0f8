/-! # Digits

The digits of ASCII and the numbers that they spell in a radix up to sixteen.
-/
namespace RelayGateway.Text

def isDigit (c : Char) : Bool := '0' ≤ c ∧ c ≤ '9'

def isLetter (c : Char) : Bool := ('a' ≤ c ∧ c ≤ 'z') ∨ ('A' ≤ c ∧ c ≤ 'Z')

def hexValue? (c : Char) : Option Nat :=
  if isDigit c then some (c.toNat - 48)
  else if 'a' ≤ c ∧ c ≤ 'f' then some (c.toNat - 87)
  else if 'A' ≤ c ∧ c ≤ 'F' then some (c.toNat - 55)
  else none

def hexDigit (n : Nat) : Char :=
  if n < 10 then Char.ofNat (48 + n) else Char.ofNat (87 + n)

def digitValue? (radix : Nat) (c : Char) : Option Nat :=
  match hexValue? c with
  | some n => if n < radix then some n else none
  | none => none

/-- The number that a text of digits spells; zero for the empty text. -/
def numberOf? (radix : Nat) (cs : List Char) : Option Nat :=
  cs.foldl (fun n c =>
    match n, digitValue? radix c with
    | some n, some d => some (n * radix + d)
    | _, _ => none) (some 0)

def digitsValue (ds : List Char) : Nat := ds.foldl (fun n c => n * 10 + (c.toNat - 48)) 0

theorem isDigit_of_isDigit {c : Char} (h : c.isDigit = true) : isDigit c = true := by
  simp only [Char.isDigit, Bool.and_eq_true, decide_eq_true_eq] at h
  simp only [isDigit, Char.le_def, decide_eq_true_eq]
  exact h

theorem hexValue?_hexDigit : ∀ n < 16, hexValue? (hexDigit n) = some n := by decide

end RelayGateway.Text
