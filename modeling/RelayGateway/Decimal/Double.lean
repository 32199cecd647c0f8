import RelayGateway.Decimal.Binary
import RelayGateway.Text.Digit

/-! # Doubles as text and as words

A double is read from digits and taken apart by its bits. Written out, it has the shortest digits that denote it and no
exponent; as a 64-bit word it is rounded to the nearest whole number, away from zero on a tie, and
cut off at the bounds of the word.
-/
namespace RelayGateway.Decimal

def infinity : Float := Float.ofBits 0x7FF0000000000000

def notANumber : Float := Float.ofBits 0x7FF8000000000000

def nearest (negative : Bool) (digits : List Char) (exponent : Int) : Float :=
  let n := Text.digitsValue digits
  let size := (Nat.toDigits 10 n).length
  let x :=
    if n = 0 ∨ exponent + size < -400 then 0
    else if 400 < exponent + size then Float.ofScientific 1 false 400
    else Float.ofScientific n (exponent < 0) exponent.natAbs
  if negative then -x else x

/-! ## Text -/

def splitExponent (cs : List Char) : List Char × Option (List Char) :=
  let isMark (c : Char) : Bool := c = 'e' || c = 'E'
  match cs.dropWhile (!isMark ·) with
  | _ :: exponent => (cs.takeWhile (!isMark ·), some exponent)
  | [] => (cs, none)

def splitSign (cs : List Char) : Bool × List Char :=
  match cs with
  | '+' :: cs => (false, cs)
  | '-' :: cs => (true, cs)
  | cs => (false, cs)

def exponentOf? (cs : List Char) : Option Int :=
  let (negative, ds) := splitSign cs
  if ds ≠ [] ∧ ds.all Text.isDigit = true then
    let n : Int := Text.digitsValue ds
    some (if negative then -n else n)
  else none

/-- Digits with a point among them or at either end; the digits together and how many are behind the
point. -/
def mantissaOf? (cs : List Char) : Option (List Char × Nat) :=
  let whole := cs.takeWhile (· ≠ '.')
  let fraction := (cs.dropWhile (· ≠ '.')).drop 1
  let ds := whole ++ fraction
  if ds ≠ [] ∧ ds.all Text.isDigit = true then some (ds, fraction.length) else none

/-- The double that a text spells: digits with a point and an exponent, or the name of a value that is
no number or not finite, in any letter case. -/
def ofChars? (cs : List Char) : Option Float :=
  let (negative, cs) := splitSign cs
  let name := String.ofList (cs.map Char.toLower)
  if name = "inf" ∨ name = "infinity" then some (if negative then -infinity else infinity)
  else if name = "nan" then some notANumber
  else
    let (mantissa, exponent) := splitExponent cs
    match mantissaOf? mantissa, exponent.elim (some 0) exponentOf? with
    | some (ds, places), some e => some (nearest negative ds (e - places))
    | _, _ => none

/-! ## Parts -/

def magnitudeBits (x : Float) : Nat := x.toBits.toNat % Nat.pow 2 63

def isNegative (x : Float) : Bool := Nat.pow 2 63 ≤ x.toBits.toNat

def infinityBits : Nat := 2047 * Nat.pow 2 52

def isNotANumber (x : Float) : Bool := infinityBits < magnitudeBits x

def isInfinite (x : Float) : Bool := magnitudeBits x = infinityBits

def isNonzero (x : Float) : Bool := magnitudeBits x ≠ 0

/-- The nearest natural number, the larger one on a tie. -/
def Binary.rounded (x : Binary) : Nat := (2 * x.ratio.num + x.ratio.den) / (2 * x.ratio.den)

/-- The nearest number below `bound`; what is not a number counts as nothing. -/
def wordOf (bound : Nat) (x : Float) : Nat :=
  if isNotANumber x || isNegative x then 0
  else if isInfinite x then bound - 1
  else min (bound - 1) (Binary.ofBits x.toBits).rounded

def plainText (x : Float) : String :=
  let size := if isInfinite x then "inf".toList else (Binary.ofBits x.toBits).shortest.plainChars
  if isNotANumber x then "NaN" else String.ofList (if isNegative x then '-' :: size else size)

end RelayGateway.Decimal
