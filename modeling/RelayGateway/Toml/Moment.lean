import RelayGateway.Toml.Basic
import RelayGateway.Toml.Lexical

/-! # Moments in TOML

Dates and times follow RFC 3339 and are validated. A moment may also be given by a table whose first
entry has a name that is kept for this: the text under that name is the moment, and the other entries
do not count. Such a text may have the hour 24 and any offset of up to a day.
-/
namespace RelayGateway.Toml
open Text (isDigit digitsValue)

def fixedNumber? (count low high : Nat) : Reader (List Char) := fun cs =>
  let ds := cs.take count
  if ds.length = count ∧ ds.all isDigit = true ∧ low ≤ digitsValue ds ∧ digitsValue ds ≤ high then
    some (ds, cs.drop count)
  else none

def mark? (c : Char) (cs : List Char) : Option (List Char) :=
  match cs with
  | d :: cs => if c = d then some cs else none
  | [] => none

def monthLength (year month : Nat) : Nat :=
  if month = 2 then if year % 4 = 0 ∧ (year % 100 ≠ 0 ∨ year % 400 = 0) then 29 else 28
  else if [4, 6, 9, 11].contains month then 30
  else 31

def date? : Reader (List Char) := fun cs => do
  let (year, cs) ← fixedNumber? 4 0 9999 cs
  let cs ← mark? '-' cs
  let (month, cs) ← fixedNumber? 2 1 12 cs
  let cs ← mark? '-' cs
  let (day, cs) ← fixedNumber? 2 1 31 cs
  if monthLength (digitsValue year) (digitsValue month) < digitsValue day then none
  else return (year ++ '-' :: month ++ '-' :: day, cs)

/-- The fraction of a second: nine digits count, and trailing zeros are not written. -/
def secondFraction? : Reader (List Char)
  | '.' :: cs =>
    match cs.takeWhile isDigit with
    | [] => none
    | ds =>
      let significant := ((ds.take 9).reverse.dropWhile (· = '0')).reverse
      some (if significant = [] then [] else '.' :: significant, cs.dropWhile isDigit)
  | cs => some ([], cs)

/-- A time of the day; the first argument is the last hour. -/
def time? (lastHour : Nat) : Reader (List Char) := fun cs => do
  let (hour, cs) ← fixedNumber? 2 0 lastHour cs
  let cs ← mark? ':' cs
  let (minute, cs) ← fixedNumber? 2 0 59 cs
  let cs ← mark? ':' cs
  let (second, cs) ← fixedNumber? 2 0 60 cs
  let (fraction, cs) ← secondFraction? cs
  return (hour ++ ':' :: minute ++ ':' :: second ++ fraction, cs)

/-- The offset of a local time; a negative offset of nothing is a positive one. -/
def offset? : Reader (List Char) := fun cs =>
  match cs with
  | c :: cs =>
    if c = 'Z' ∨ c = 'z' then some (['Z'], cs)
    else if c = '+' ∨ c = '-' then do
      let (hour, cs) ← fixedNumber? 2 0 23 cs
      let cs ← mark? ':' cs
      let (minute, cs) ← fixedNumber? 2 0 59 cs
      let sign := if c = '-' ∧ digitsValue (hour ++ minute) ≠ 0 then '-' else '+'
      return (sign :: hour ++ ':' :: minute, cs)
    else some ([], c :: cs)
  | [] => some ([], [])

def moment? : Reader (List Char) := fun cs =>
  match date? cs with
  | none => time? 23 cs
  | some (date, rest) =>
    match rest with
    | c :: afterMark =>
      if c = 'T' ∨ c = 't' ∨ c = ' ' then
        match time? 23 afterMark with
        | none => if c = ' ' then some (date, rest) else none
        | some (time, rest) =>
          (offset? rest).map fun (offset, rest) => (date ++ 'T' :: time ++ offset, rest)
      else some (date, rest)
    | [] => some (date, [])

def beginsMoment (cs : List Char) : Bool :=
  match cs.takeWhile isDigit, cs.dropWhile isDigit with
  | [_, _, _, _], '-' :: _ => true
  | [_, _], ':' :: _ => true
  | _, _ => false

/-! ## Moments given by tables -/

def twoDigits (n : Nat) : List Char := [Nat.digitChar (n / 10), Nat.digitChar (n % 10)]

/-- An offset of hours and minutes, at most a day together, in its shortest form. -/
def wideOffset? (cs : List Char) : Option (List Char) :=
  match cs with
  | [] => some []
  | ['Z'] => some ['Z']
  | ['z'] => some ['Z']
  | c :: cs =>
    if c = '+' ∨ c = '-' then do
      let (hour, cs) ← fixedNumber? 2 0 99 cs
      let cs ← mark? ':' cs
      let (minute, cs) ← fixedNumber? 2 0 99 cs
      let minutes := digitsValue hour * 60 + digitsValue minute
      let sign := if c = '-' ∧ minutes ≠ 0 then '-' else '+'
      if cs = [] ∧ minutes ≤ 1440 then
        return sign :: twoDigits (minutes / 60) ++ ':' :: twoDigits (minutes % 60)
      else none
    else none

def momentOf? (cs : List Char) : Option (List Char) :=
  if (cs.drop 2).head? = some ':' then
    match time? 24 cs with
    | some (time, []) => some time
    | _ => none
  else
    match date? cs with
    | some (date, []) => some date
    | some (date, c :: cs) =>
      if c = 'T' ∨ c = 't' ∨ c = ' ' then
        match time? 24 cs with
        | some (time, cs) => (wideOffset? cs).map fun offset => date ++ 'T' :: time ++ offset
        | none => none
      else none
    | none => none

/-- The name that the first entry of a table has if the table gives a moment. -/
def momentKey : String := "$__toml_private_datetime"

/-- What a table gives as a moment, if it is meant to give one; nothing inside if that is no moment. -/
def givenMoment? (entries : List (String × Value)) : Option (Option Value) :=
  match entries with
  | (key, v) :: _ =>
    if key = momentKey then
      match v with
      | .string s => some ((momentOf? s.toList).map fun text => .moment (String.ofList text))
      | _ => some none
    else none
  | [] => none

mutual

def Value.withMoments? : Value → Option Value
  | .array items => (itemsWithMoments? items).map .array
  | .table entries =>
    match givenMoment? entries with
    | some moment => moment
    | none => (entriesWithMoments? entries).map .table
  | v => some v

def itemsWithMoments? : List Value → Option (List Value)
  | [] => some []
  | v :: vs =>
    match v.withMoments?, itemsWithMoments? vs with
    | some v, some vs => some (v :: vs)
    | _, _ => none

def entriesWithMoments? : List (String × Value) → Option (List (String × Value))
  | [] => some []
  | (key, v) :: rest =>
    match v.withMoments?, entriesWithMoments? rest with
    | some v, some rest => some ((key, v) :: rest)
    | _, _ => none

end

def withMoments? (entries : List (String × Value)) : Option (List (String × Value)) :=
  if (givenMoment? entries).isSome then none else entriesWithMoments? entries

end RelayGateway.Toml
