import RelayGateway.Text.Digit

/-! # Punycode

Text beyond ASCII as text in ASCII (RFC 3492): the ASCII characters in their order, a hyphen if there
are any, and then in ascending order the other characters, each by how far it lies behind the one
before it, counting places as well as code points. These distances are numbers in the radix 36 whose
digits have thresholds that adapt to the distances seen so far.
-/
namespace RelayGateway.Text.Punycode

def digitChar (d : Nat) : Char := if d < 26 then Char.ofNat (97 + d) else Char.ofNat (22 + d)

def digitValue? (c : Char) : Option Nat :=
  if 'a' ≤ c ∧ c ≤ 'z' then some (c.toNat - 97)
  else if 'A' ≤ c ∧ c ≤ 'Z' then some (c.toNat - 65)
  else if isDigit c then some (c.toNat - 22)
  else none

/-- A digit below the threshold of its position ends a number. -/
def threshold (position bias : Nat) : Nat := min 26 (max 1 (position - bias))

theorem threshold_pos (position bias : Nat) : 0 < threshold position bias := by
  simp only [threshold]; omega

/-- Divides by 35 until the number is at most 455, at most `fuel` times; counts 36 for each division. -/
def shrink : Nat → Nat → Nat → Nat × Nat
  | 0, delta, k => (delta, k)
  | fuel + 1, delta, k => if 455 < delta then shrink fuel (delta / 35) (k + 36) else (delta, k)

/-- The bias after a distance, when there are `count` characters; the first distance counts less. -/
def adapt (delta count : Nat) (first : Bool) : Nat :=
  let delta := if first then delta / 700 else delta / 2
  let delta := delta + delta / count
  let (delta, k) := shrink delta delta 0
  k + 36 * delta / (delta + 38)

/-! ## Writing -/

def digitsOf (bias position n : Nat) : List Char :=
  let t := threshold position bias
  if n < t then [digitChar n]
  else digitChar (t + (n - t) % (36 - t)) :: digitsOf bias (position + 36) ((n - t) / (36 - t))
termination_by n
decreasing_by
  have := threshold_pos position bias
  have := Nat.div_le_self (n - threshold position bias) (36 - threshold position bias)
  omega

structure Encoding where
  /-- What has been written, the last character first. -/
  written : List Char
  delta : Nat
  bias : Nat
  count : Nat

namespace Encoding

/-- Steps over one character of the text while `point` is being placed. -/
def step (basicCount point : Nat) (s : Encoding) (c : Char) : Encoding :=
  if c.toNat < point then { s with delta := s.delta + 1 }
  else if c.toNat = point then
    ⟨(digitsOf s.bias 36 s.delta).reverse ++ s.written, 0,
      adapt s.delta (s.count + 1) (s.count = basicCount), s.count + 1⟩
  else s

/-- Places all characters of a text; the points come in ascending order and begin after `last`. -/
def place (text : List Char) (basicCount : Nat) : Nat → List Nat → Encoding → Encoding
  | _, [], s => s
  | next, point :: points, s =>
    let s := { s with delta := s.delta + (point - next) * (s.count + 1) }
    let s := text.foldl (step basicCount point) s
    place text basicCount (point + 1) points { s with delta := s.delta + 1 }

end Encoding

def insertPoint (n : Nat) : List Nat → List Nat
  | [] => [n]
  | m :: rest => if n < m then n :: m :: rest else if n = m then m :: rest else m :: insertPoint n rest

def points (text : List Char) : List Nat :=
  text.foldl (fun ns c => if c.toNat < 128 then ns else insertPoint c.toNat ns) []

def encode (text : List Char) : List Char :=
  let basic := text.filter (·.toNat < 128)
  let start := if basic = [] then [] else '-' :: basic.reverse
  (Encoding.place text basic.length 128 (points text) ⟨start, 0, 72, basic.length⟩).written.reverse

/-! ## Reading -/

/-- Text that is being read: the characters so far, the code point and the place of the last one, and
the number of which some digits have been read. -/
structure Decoding where
  text : List Char
  point : Nat
  place : Nat
  bias : Nat
  number : Nat
  weight : Nat
  position : Nat
deriving DecidableEq, Inhabited

namespace Decoding

def start (basic : List Char) : Decoding := ⟨basic, 128, 0, 72, 0, 1, 36⟩

def isComplete (s : Decoding) : Bool := s.position = 36

def limit : Nat := 4294967295

def isScalar (n : Nat) : Bool := n < 0xD800 || (0xE000 ≤ n && n < 0x110000)

/-- The character that a number stands for is put into its place. -/
def finish? (s : Decoding) (number : Nat) : Option Decoding :=
  let count := s.text.length + 1
  let point := s.point + number / count
  let place := number % count
  if isScalar point then
    some ⟨s.text.insertIdx place (Char.ofNat point), point, place + 1,
      adapt (number - s.place) count (s.place = 0), place + 1, 1, 36⟩
  else none

def add? (s : Decoding) (c : Char) : Option Decoding :=
  match digitValue? c with
  | none => none
  | some d =>
    let t := threshold s.position s.bias
    let number := s.number + d * s.weight
    if limit < number then none
    else if d < t then s.finish? number
    else if limit < s.weight * (36 - t) then none
    else some { s with number, weight := s.weight * (36 - t), position := s.position + 36 }

end Decoding

def parts (cs : List Char) : List Char × List Char :=
  let digits := (cs.reverse.takeWhile (· ≠ '-')).reverse
  match cs.take (cs.length - digits.length) with
  | [] => ([], digits)
  | basic => if basic = ['-'] then ([], cs) else (basic.dropLast, digits)

def decode? (cs : List Char) : Option (List Char) :=
  let (basic, digits) := parts cs
  if basic.all (·.toNat < 128) then
    match digits.foldlM Decoding.add? (.start basic) with
    | some s => if s.isComplete then some s.text else none
    | none => none
  else none

end RelayGateway.Text.Punycode
