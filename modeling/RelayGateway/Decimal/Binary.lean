/-! # Binary fractions and the decimals that denote them

A finite double is a natural number times a power of two. A decimal denotes the double whose rounding
interval it lies in; among the decimals that denote a double, the shortest has the fewest digits and,
of two with as few, lies nearer to the double, the larger one on a tie.
-/
namespace RelayGateway.Decimal

/-- The number `m * 2 ^ q`, and whether its lower neighbour is half as far away as the upper one. -/
structure Binary where
  m : Nat
  q : Int
  narrowBelow : Bool
deriving DecidableEq, Inhabited

/-- The number `digits * 10 ^ exponent`. -/
structure Numeral where
  digits : Nat
  exponent : Int
deriving DecidableEq, Inhabited

def Binary.ofBits (bits : UInt64) : Binary :=
  let e : Nat := (bits.toNat / Nat.pow 2 52) % 2048
  let f : Nat := bits.toNat % Nat.pow 2 52
  if e = 0 then ⟨f, -1074, false⟩ else ⟨Nat.pow 2 52 + f, (e : Int) - 1075, f = 0 && 1 < e⟩

structure Ratio where
  num : Nat
  den : Nat

def Ratio.le (a b : Ratio) : Bool := a.num * b.den ≤ b.num * a.den

def Ratio.lt (a b : Ratio) : Bool := a.num * b.den < b.num * a.den

def scaled (n base : Nat) (e : Int) : Ratio := ⟨n * Nat.pow base e.toNat, Nat.pow base (-e).toNat⟩

def Numeral.ratio (d : Numeral) : Ratio := scaled d.digits 10 d.exponent

def Binary.ratio (x : Binary) : Ratio := scaled x.m 2 x.q

/-- Whether a decimal denotes `x`: it lies between the middles to the neighbours, and on a middle
only when `x` is even. -/
def Binary.isDenotedBy (x : Binary) (d : Numeral) : Bool :=
  let low := scaled (4 * x.m - if x.narrowBelow then 1 else 2) 2 (x.q - 2)
  let high := scaled (4 * x.m + 2) 2 (x.q - 2)
  if x.m % 2 = 0 then low.le d.ratio && d.ratio.le high else low.lt d.ratio && d.ratio.lt high

def Binary.floorAt (x : Binary) (e : Int) : Nat :=
  let r := x.ratio
  r.num * Nat.pow 10 (-e).toNat / (r.den * Nat.pow 10 e.toNat)

/-- The neighbour of `x` on the grid of the multiples of `10 ^ e` that denotes it, the nearer one if
both do. -/
def Binary.onGrid? (x : Binary) (e : Int) : Option Numeral :=
  let below : Numeral := ⟨x.floorAt e, e⟩
  let above : Numeral := ⟨x.floorAt e + 1, e⟩
  if x.isDenotedBy above then
    let middle := scaled (2 * below.digits + 1) 10 e
    if x.isDenotedBy below && (scaled (2 * x.m) 2 x.q).lt middle then some below else some above
  else if x.isDenotedBy below then some below
  else none

/-- The exponents of the grids on which a decimal of at most seventeen digits can denote `x`,
coarsest first. -/
def Binary.grids (x : Binary) : List Int :=
  let top := ((x.m.log2 : Int) + x.q + 1) * 30103 / 100000 + 1
  (List.range 20).map fun i : Nat => top - (i : Int)

/-- Trailing zeros move into the exponent; at most `fuel` of them. -/
def Numeral.strip : Nat → Numeral → Numeral
  | 0, d => d
  | fuel + 1, d =>
    if d.digits % 10 = 0 && d.digits ≠ 0 then strip fuel ⟨d.digits / 10, d.exponent + 1⟩ else d

def Binary.shortest (x : Binary) : Numeral :=
  if x.m = 0 then ⟨0, 0⟩
  else
    match x.grids.findSome? x.onGrid? with
    | some d => d.strip 20
    | none => ⟨x.m * Nat.pow 5 (-x.q).toNat * Nat.pow 2 x.q.toNat, min x.q 0⟩

def Numeral.plainChars (d : Numeral) : List Char :=
  let ds := Nat.toDigits 10 d.digits
  if 0 ≤ d.exponent then
    if d.digits = 0 then ['0'] else ds ++ List.replicate d.exponent.toNat '0'
  else
    let places := (-d.exponent).toNat
    let ds := List.replicate (places + 1 - ds.length) '0' ++ ds
    ds.take (ds.length - places) ++ '.' :: ds.drop (ds.length - places)

end RelayGateway.Decimal
