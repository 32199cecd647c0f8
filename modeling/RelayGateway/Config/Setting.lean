import RelayGateway.Decimal.Double
import RelayGateway.Readable
import RelayGateway.Table
import RelayGateway.Text.Digit
import RelayGateway.Text.Occurs
import RelayGateway.Toml.Basic
import RelayGateway.Word

/-! # Settings

A tree of settings that several sources write to, one path after the other. Tables that meet are
merged entry by entry, and anything else that is written replaces what was there. The names of
settings have no letter case, but a list is kept as it is written.

Settings are read leniently: a number may be written as text or as a truth value, and so on.
-/
namespace RelayGateway

inductive Setting where
  | absent
  | integer (n : Int)
  | float (x : Float)
  | boolean (b : Bool)
  | text (s : String)
  | list (items : List Setting)
  | table (entries : List (String × Setting))

namespace Setting

instance : Inhabited Setting := ⟨.absent⟩

def empty : Setting := .table []

def entries : Setting → List (String × Setting)
  | .table es => es
  | _ => []

def items : Setting → List Setting
  | .list ss => ss
  | _ => []

def find? (key : String) (s : Setting) : Option Setting := Table.lookup key s.entries

/-- Writes one entry; what is not a table becomes one. -/
def put (s : Setting) (key : String) (value : Setting) : Setting :=
  .table (Table.replace key value s.entries)

def caseless (key : String) : String := String.ofList (Text.lower key)

mutual

def assign (s : Setting) (key : String) : Setting → Setting
  | .table es => s.put (caseless key) (merge ((s.find? (caseless key)).getD empty) es)
  | value => s.put (caseless key) value

def merge (s : Setting) : List (String × Setting) → Setting
  | [] => s
  | (key, value) :: rest => merge (s.assign key value) rest

end

mutual

def ofToml : Toml.Value → Setting
  | .string s => .text s
  | .integer n => .integer n
  | .float x => .float x
  | .boolean b => .boolean b
  | .moment s => .text s
  | .array vs => .list (ofItems vs)
  | .table es => .table (ofEntries es)

def ofItems : List Toml.Value → List Setting
  | [] => []
  | v :: vs => ofToml v :: ofItems vs

def ofEntries : List (String × Toml.Value) → List (String × Setting)
  | [] => []
  | (key, v) :: rest => (key, ofToml v) :: ofEntries rest

end

/-! ## Paths -/

/-- A step of a path: to an entry of a table, or to an item of a list, where a negative index counts
from the end. -/
inductive PathStep where
  | key (name : String)
  | index (i : Int)
deriving DecidableEq

def position (i : Int) (length : Nat) : Nat := if 0 ≤ i then i.toNat else length - i.natAbs

def extended (items : List Setting) (n : Nat) : List Setting :=
  items ++ List.replicate (n + 1 - items.length) .absent

/-- Writes a value at a path. What is in the way becomes a table or a list. -/
def write (value : Setting) : List PathStep → Setting → Setting
  | [], _ => value
  | [.key name], s => s.assign name value
  | .key name :: path, s =>
    s.put (caseless name) (write value path ((s.find? (caseless name)).getD .absent))
  | .index i :: path, s =>
    let n := position i s.items.length
    let items := extended s.items n
    .list (items.set n (write value path (items.getD n .absent)))

def isPathChar (c : Char) : Bool :=
  Text.isLetter c || Text.isDigit c || c = ' ' || c = '_' || c = '-'

/-- An index and the bracket behind it, with blanks around the number. -/
def index? (cs : List Char) : Option (Int × List Char) :=
  let isBlank (c : Char) : Bool := c = ' ' || c = '\t'
  let cs := cs.dropWhile isBlank
  let (negative, cs) :=
    match cs with
    | '-' :: cs => (true, cs)
    | cs => (false, cs)
  let ds := cs.takeWhile Text.isDigit
  let n := Text.digitsValue ds
  match (cs.dropWhile Text.isDigit).dropWhile isBlank with
  | ']' :: rest =>
    if ds = [] ∨ 9223372036854775808 ≤ n then none else some (if negative then -n else n, rest)
  | _ => none

/-- The steps behind the first name; the first argument bounds their number. -/
def stepsAfter? : Nat → List Char → Option (List PathStep)
  | _, [] => some []
  | 0, _ => none
  | fuel + 1, '.' :: cs =>
    match cs.takeWhile isPathChar with
    | [] => none
    | name => (stepsAfter? fuel (cs.dropWhile isPathChar)).map (.key (String.ofList name) :: ·)
  | fuel + 1, '[' :: cs =>
    match index? cs with
    | some (i, cs) => (stepsAfter? fuel cs).map (.index i :: ·)
    | none => none
  | _, _ => none

/-- Names joined by points, with indices in brackets behind them. A text of another form is a single
name. -/
def pathOf (text : String) : List PathStep :=
  let cs := text.toList
  match cs.takeWhile isPathChar with
  | [] => [.key text]
  | name =>
    match stepsAfter? cs.length (cs.dropWhile isPathChar) with
    | some steps => .key (String.ofList name) :: steps
    | none => [.key text]

def overlay (s : Setting) (source : List (String × Setting)) : Setting :=
  source.foldl (fun s (name, value) => write value (pathOf name) s) s

/-! ## Lenient reading -/

def truthOf? (word : String) : Option Bool :=
  let word := caseless word
  if ["true", "on", "yes"].contains word then some true
  else if ["false", "off", "no"].contains word then some false
  else none

def wordOfText? (s : String) : Option Nat :=
  let ds :=
    match s.toList with
    | '+' :: ds => ds
    | ds => ds
  let n := Text.digitsValue ds
  if ds ≠ [] ∧ ds.all Text.isDigit = true ∧ n < wordBound then some n else none

def number? : Setting → Option Nat
  | .integer n => if 0 ≤ n then some n.toNat else none
  | .float x => some (Decimal.wordOf wordBound x)
  | .boolean b => some b.toNat
  | .text s =>
    match truthOf? s with
    | some b => some b.toNat
    | none => wordOfText? s
  | _ => none

def truth? : Setting → Option Bool
  | .integer n => some (n ≠ 0)
  | .float x => some (Decimal.isNonzero x)
  | .boolean b => some b
  | .text s => if s = "1" then some true else if s = "0" then some false else truthOf? s
  | _ => none

def text? : Setting → Option String
  | .integer n => some (toString n)
  | .float x => some (Decimal.plainText x)
  | .boolean b => some (if b then "true" else "false")
  | .text s => some s
  | _ => none

/-- The fields of a record: the entries of a table under their names, or the items of a list in the
order of the names. -/
def fields? (names : List String) : Setting → Option (Fields Setting)
  | .table es => some (es.filter fun e => names.contains e.1)
  | .list ss => some (names.zip ss)
  | _ => none

instance : Readable Setting where
  number? := number?
  truth? := truth?
  text? := text?
  items? s :=
    match s with
    | .list ss => some ss
    | _ => none
  fields? := fields?

end Setting
end RelayGateway
