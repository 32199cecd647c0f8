/-! # Reading bytes as text, whatever they are

Bytes that are no UTF-8 are read with a replacement character for each longest run of them that begins
like a character but is not completed.
-/
namespace RelayGateway.Text

/-- A character of which some bytes are still missing: its bits so far, how many bytes are missing,
and the bounds of the next. -/
structure Partial where
  bits : Nat
  missing : Nat
  low : Nat
  high : Nat

def replacement : Char := '\uFFFD'

def Partial.begin? (b : Nat) : Option Partial :=
  if b < 0x80 then some ⟨b, 0, 0, 0⟩
  else if b < 0xC2 then none
  else if b < 0xE0 then some ⟨b - 0xC0, 1, 0x80, 0xBF⟩
  else if b < 0xF0 then
    some ⟨b - 0xE0, 2, if b = 0xE0 then 0xA0 else 0x80, if b = 0xED then 0x9F else 0xBF⟩
  else if b < 0xF5 then
    some ⟨b - 0xF0, 3, if b = 0xF0 then 0x90 else 0x80, if b = 0xF4 then 0x8F else 0xBF⟩
  else none

def Partial.add (p : Partial) (b : Nat) : Partial := ⟨p.bits * 64 + b % 64, p.missing - 1, 0x80, 0xBF⟩

/-- Goes on with a byte that begins a character; gives the character if that is all of it. -/
def firstByte (b : Nat) : Option Partial × List Char :=
  match Partial.begin? b with
  | none => (none, [replacement])
  | some p => if p.missing = 0 then (none, [Char.ofNat p.bits]) else (some p, [])

def nextByte (p : Option Partial) (b : Nat) : Option Partial × List Char :=
  match p with
  | none => firstByte b
  | some p =>
    if p.low ≤ b ∧ b ≤ p.high then
      let p := p.add b
      if p.missing = 0 then (none, [Char.ofNat p.bits]) else (some p, [])
    else
      let (p, cs) := firstByte b
      (p, replacement :: cs)

def charsFrom (p : Option Partial) : List UInt8 → List Char
  | [] => if p.isSome then [replacement] else []
  | b :: bs =>
    let (p, cs) := nextByte p b.toNat
    cs ++ charsFrom p bs

def lossy (bs : List UInt8) : String := String.ofList (charsFrom none bs)

def fitting : Nat → List Char → List Char
  | _, [] => []
  | room, c :: cs => if c.utf8Size ≤ room then c :: fitting (room - c.utf8Size) cs else []

end RelayGateway.Text
