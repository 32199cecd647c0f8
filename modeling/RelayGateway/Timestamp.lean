import RelayGateway.Text.Blank
import RelayGateway.Text.Digit

/-! # Moments of civil time

A timestamp is a moment in coordinated universal time: a date, the second of the day and the
nanoseconds in it. A leap second continues the fifty-ninth second of its minute, so its nanoseconds
run on past one billion.

Timestamps are read from RFC 3339 text in a lenient way: blanks may stand before every number and
separator, numbers may be short, and the offset may leave out its colon. They are written with `Z`
and the fewest of 0, 3, 6 or 9 fraction digits that are exact.
-/
namespace RelayGateway

structure Timestamp where
  year : Int
  month : Nat
  day : Nat
  second : Nat
  nanos : Nat
deriving DecidableEq, Inhabited

namespace Timestamp
open Text (isDigit digitsValue)

def isLeapYear (year : Int) : Bool := year % 4 = 0 && (year % 100 ≠ 0 || year % 400 = 0)

def daysInMonth (year : Int) (month : Nat) : Nat :=
  match month with
  | 1 | 3 | 5 | 7 | 8 | 10 | 12 => 31
  | 4 | 6 | 9 | 11 => 30
  | 2 => if isLeapYear year then 29 else 28
  | _ => 0

def firstYear : Int := -262143

def lastYear : Int := 262142

def validDate (year : Int) (month day : Nat) : Bool :=
  firstYear ≤ year && year ≤ lastYear && 1 ≤ day && day ≤ daysInMonth year month

def dayBefore (year : Int) (month day : Nat) : Int × Nat × Nat :=
  if day > 1 then (year, month, day - 1)
  else if month > 1 then (year, month - 1, daysInMonth year (month - 1))
  else (year - 1, 12, 31)

def dayAfter (year : Int) (month day : Nat) : Int × Nat × Nat :=
  if day < daysInMonth year month then (year, month, day + 1)
  else if month < 12 then (year, month + 1, 1)
  else (year + 1, 1, 1)

/-- The moment of a local time that is `offset` seconds ahead of universal time; `none` past either
end of the calendar. -/
def ofLocal? (year : Int) (month day second nanos : Nat) (offset : Int) : Option Timestamp :=
  let shifted := (second : Int) - offset
  let (y, m, d) :=
    if shifted < 0 then dayBefore year month day
    else if shifted < 86400 then (year, month, day)
    else dayAfter year month day
  if validDate y m d then some ⟨y, m, d, (shifted % 86400).toNat, nanos⟩ else none

def dateOfDays (days : Nat) : Int × Nat × Nat :=
  let z := days + 719468
  let era := z / 146097
  let doe := z % 146097
  let yoe := (doe - doe / 1460 + doe / 36524 - doe / 146096) / 365
  let doy := doe - (365 * yoe + yoe / 4 - yoe / 100)
  let mp := (5 * doy + 2) / 153
  let day := doy - (153 * mp + 2) / 5 + 1
  let month := if mp < 10 then mp + 3 else mp - 9
  let year := yoe + era * 400
  ((if month ≤ 2 then year + 1 else year : Nat), month, day)

def ofMillis (millis : Nat) : Timestamp :=
  let (y, m, d) := dateOfDays (millis / 86400000)
  ⟨y, m, d, millis / 1000 % 86400, millis % 1000 * 1000000⟩

/-! ## Reading -/

def readDigits (most : Nat) (cs : List Char) : Option (List Char × List Char) :=
  match (cs.take most).takeWhile isDigit with
  | [] => none
  | ds => some (ds, cs.drop ds.length)

def readNumber (most : Nat) (cs : List Char) : Option (Nat × List Char) :=
  (readDigits most (Text.skipBlanks cs)).map fun (ds, cs) => (digitsValue ds, cs)

def readBetween (most low high : Nat) (cs : List Char) : Option (Nat × List Char) :=
  match readNumber most cs with
  | some (n, cs) => if low ≤ n ∧ n ≤ high then some (n, cs) else none
  | none => none

/-- Four digits at most, or any number of them after a sign. -/
def readYear (cs : List Char) : Option (Int × List Char) :=
  match Text.skipBlanks cs with
  | '-' :: cs => (readDigits cs.length cs).map fun (ds, cs) => (-(digitsValue ds : Int), cs)
  | '+' :: cs => (readDigits cs.length cs).map fun (ds, cs) => ((digitsValue ds : Int), cs)
  | cs => (readDigits 4 cs).map fun (ds, cs) => ((digitsValue ds : Int), cs)

def readMark (mark : Char) (cs : List Char) : Option (List Char) :=
  match Text.skipBlanks cs with
  | c :: cs => if c = mark then some cs else none
  | [] => none

/-- A point and digits, of which nine count. -/
def readFraction : List Char → Option (Nat × List Char)
  | '.' :: cs =>
    match readDigits 9 cs with
    | some (ds, cs) => some (digitsValue ds * Nat.pow 10 (9 - ds.length), cs.dropWhile isDigit)
    | none => none
  | cs => some (0, cs)

def readOffsetDigits (negative : Bool) : List Char → Option (Int × List Char)
  | a :: b :: cs =>
    if isDigit a && isDigit b then
      match cs.dropWhile (fun c => c = ':' || Text.isBlank c) with
      | c :: d :: cs =>
        if '0' ≤ c ∧ c ≤ '5' ∧ isDigit d then
          let seconds : Int := digitsValue [a, b] * 3600 + digitsValue [c, d] * 60
          some (if negative then -seconds else seconds, cs)
        else none
      | _ => none
    else none
  | _ => none

def readOffset (cs : List Char) : Option (Int × List Char) :=
  if (cs.take 3).map Char.toUpper = ['U', 'T', 'C'] then some (0, cs.drop 3)
  else
    match cs with
    | 'Z' :: cs => some (0, cs)
    | 'z' :: cs => some (0, cs)
    | '+' :: cs => readOffsetDigits false cs
    | '-' :: cs => readOffsetDigits true cs
    | '−' :: cs => readOffsetDigits true cs
    | _ => none

def readSeparator : List Char → Option (List Char)
  | c :: cs => if c = 'T' ∨ c = 't' ∨ c = ' ' then some cs else none
  | [] => none

def parseChars? (cs : List Char) : Option Timestamp := do
  let (year, cs) ← readYear cs
  let cs ← readMark '-' cs
  let (month, cs) ← readBetween 2 1 12 cs
  let cs ← readMark '-' cs
  let (day, cs) ← readBetween 2 1 31 cs
  let cs ← readSeparator cs
  let (hour, cs) ← readBetween 2 0 23 cs
  let cs ← readMark ':' cs
  let (minute, cs) ← readBetween 2 0 59 cs
  let cs ← readMark ':' cs
  let (second, cs) ← readBetween 2 0 60 cs
  let (nanos, cs) ← readFraction cs
  let (offset, cs) ← readOffset (Text.skipBlanks cs)
  if Text.skipBlanks cs ≠ [] ∨ 86400 ≤ offset.natAbs ∨ ¬ validDate year month day then none
  else
    let (second, nanos) := if second = 60 then (59, nanos + 1000000000) else (second, nanos)
    ofLocal? year month day (hour * 3600 + minute * 60 + second) nanos offset

def parse? (text : String) : Option Timestamp := parseChars? text.toList

/-! ## Writing -/

def padded (width n : Nat) : List Char :=
  let ds := Nat.toDigits 10 n
  List.replicate (width - ds.length) '0' ++ ds

def yearChars (year : Int) : List Char :=
  if 0 ≤ year ∧ year ≤ 9999 then padded 4 year.toNat
  else (if year < 0 then '-' else '+') :: padded 4 year.natAbs

def fractionChars (nanos : Nat) : List Char :=
  if nanos = 0 then []
  else if nanos % 1000000 = 0 then '.' :: padded 3 (nanos / 1000000)
  else if nanos % 1000 = 0 then '.' :: padded 6 (nanos / 1000)
  else '.' :: padded 9 nanos

def chars (t : Timestamp) : List Char :=
  let leap := 1000000000 ≤ t.nanos
  let second := if leap then t.second % 60 + 1 else t.second % 60
  let nanos := if leap then t.nanos - 1000000000 else t.nanos
  yearChars t.year ++ '-' :: (padded 2 t.month ++ '-' :: (padded 2 t.day ++ 'T' ::
    (padded 2 (t.second / 3600) ++ ':' :: (padded 2 (t.second / 60 % 60) ++ ':' ::
      (padded 2 second ++ (fractionChars nanos ++ ['Z']))))))

def render (t : Timestamp) : String := String.ofList t.chars

end Timestamp
end RelayGateway
