import RelayGateway.Decimal.Double
import RelayGateway.Toml.Moment

/-! # Numbers in TOML

Integers have 64 bits with a sign, in four radixes. Floats are doubles. Digits may be grouped by
underscores between two digits.
-/
namespace RelayGateway.Toml
open Text (isDigit digitValue? digitsValue numberOf?)

def groupedDigits? (radix : Nat) : Reader (List Char) := fun cs =>
  let isRadixDigit (c : Char) : Bool := (digitValue? radix c).isSome
  match cs with
  | c :: cs => if isRadixDigit c then some (go isRadixDigit [c] cs) else none
  | [] => none
where
  go (isRadixDigit : Char → Bool) (read : List Char) : List Char → List Char × List Char
    | '_' :: c :: cs =>
      if isRadixDigit c then go isRadixDigit (c :: read) cs else (read.reverse, '_' :: c :: cs)
    | c :: cs => if isRadixDigit c then go isRadixDigit (c :: read) cs else (read.reverse, c :: cs)
    | [] => (read.reverse, [])

def wholeDigits? : Reader (List Char)
  | '0' :: cs => some (['0'], cs)
  | cs => groupedDigits? 10 cs

def signed? (cs : List Char) : Option Bool × List Char :=
  match cs with
  | '+' :: cs => (some false, cs)
  | '-' :: cs => (some true, cs)
  | cs => (none, cs)

def inRange (n : Int) : Bool := -9223372036854775808 ≤ n && n < 9223372036854775808

def integerOf? (negative : Bool) (n : Nat) (cs : List Char) : Option (Value × List Char) :=
  let n : Int := if negative then -n else n
  if inRange n then some (.integer n, cs) else none

def radixInteger? (radix : Nat) : Reader Value := fun cs =>
  match groupedDigits? radix cs with
  | some (ds, cs) => (numberOf? radix ds).bind fun n => integerOf? false n cs
  | none => none

def fraction? : Reader (List Char)
  | '.' :: cs => groupedDigits? 10 cs
  | cs => some ([], cs)

def exponent? : Reader (Option Int)
  | c :: cs =>
    if c = 'e' ∨ c = 'E' then
      let (sign, cs) := signed? cs
      (groupedDigits? 10 cs).map fun (ds, cs) =>
        let n : Int := digitsValue ds
        (some (if sign = some true then -n else n), cs)
    else some (none, c :: cs)
  | [] => some (none, [])

/-- Infinity must be spelled out, a finite spelling may not reach it; only its negative may. -/
def floatOf? (negative : Bool) (digits fraction : List Char) (exponent : Int) (cs : List Char) :
    Option (Value × List Char) :=
  let x := Decimal.nearest negative (digits ++ fraction) (exponent - fraction.length)
  if x.isInf && !negative then none else some (.float x, cs)

def decimal? (negative : Bool) : Reader Value := fun cs =>
  match wholeDigits? cs with
  | none => none
  | some (whole, rest) =>
    match fraction? rest with
    | none => none
    | some (fraction, afterFraction) =>
      match exponent? afterFraction with
      | none => none
      | some (exponent, afterExponent) =>
        if exponent.isNone && fraction = [] then integerOf? negative (digitsValue whole) rest
        else floatOf? negative whole fraction (exponent.getD 0) afterExponent

def special? (negative : Bool) : Reader Value
  | 'i' :: 'n' :: 'f' :: cs => some (.float (if negative then -Decimal.infinity else Decimal.infinity), cs)
  | 'n' :: 'a' :: 'n' :: cs => some (.float Decimal.notANumber, cs)
  | _ => none

def number? : Reader Value := fun cs =>
  if beginsMoment cs then (moment? cs).map fun (text, cs) => (.moment (String.ofList text), cs)
  else
    match cs with
    | '0' :: 'x' :: cs => radixInteger? 16 cs
    | '0' :: 'o' :: cs => radixInteger? 8 cs
    | '0' :: 'b' :: cs => radixInteger? 2 cs
    | cs =>
      let (sign, rest) := signed? cs
      let negative := sign = some true
      match special? negative rest with
      | some v => some v
      | none => decimal? negative rest

end RelayGateway.Toml
