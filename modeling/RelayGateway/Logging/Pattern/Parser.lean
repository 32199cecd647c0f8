import RelayGateway.Logging.Pattern
import RelayGateway.Text.Alphanumeric
import RelayGateway.Text.Blank

/-! # Reading patterns

Each reader takes the characters ahead and answers with what it read and the characters left over; the
number of characters bounds the nesting. A count in braces cannot be read: a field ends at the first
closing brace, so none has its end.
-/
namespace RelayGateway.Pattern
open Text (isLetter isDigit hexValue? numberOf? isAlphabetic isAlphanumeric)

/-- What a reader has to know of the pattern before: whether blanks and comments are passed over, and
which names groups have. -/
structure Reading where
  verbose : Bool
  names : List (List Char)

/-! ## Blanks -/

def skipAll : Nat → List Char → List Char
  | 0, cs => cs
  | fuel + 1, cs =>
    match cs.dropWhile Text.isBlank with
    | '#' :: cs => skipAll fuel ((cs.dropWhile (· ≠ '\n')).drop 1)
    | cs => cs

def skip (verbose : Bool) (cs : List Char) : List Char :=
  if verbose then skipAll (cs.length + 1) cs else cs

/-- The next character that counts. The mark of a comment is passed over alone, and what stands in the
comment counts. -/
def peek? (verbose : Bool) (cs : List Char) : Option Char :=
  if verbose then
    match cs.dropWhile Text.isBlank with
    | '#' :: cs => (cs.dropWhile Text.isBlank).head?
    | cs => cs.head?
  else cs.head?

/-! ## Escapes -/

/-- Characters that stand for themselves behind a backslash: all of ASCII but letters, digits and the
angles, which mark the bounds of words. -/
def isEscapable (c : Char) : Bool :=
  isAscii c && !isLetter c && !isDigit c && c ≠ '<' && c ≠ '>'

def hexDigits? (verbose : Bool) : Nat → List Char → Option (List Char × List Char)
  | 0, cs => some ([], cs)
  | count + 1, cs =>
    match skip verbose cs with
    | c :: cs =>
      if (hexValue? c).isSome then
        (hexDigits? verbose count cs).map fun (ds, cs) => (c :: ds, cs)
      else none
    | [] => none

def hexChar? (verbose : Bool) (count : Nat) (cs : List Char) : Option (Pattern × List Char) :=
  match hexDigits? verbose count cs with
  | some (ds, cs) =>
    match numberOf? 16 ds with
    | some n =>
      if n < 0xD800 ∨ (0xE000 ≤ n ∧ n < 0x110000) then some (.char (Char.ofNat n) (count = 2), cs)
      else none
    | none => none
  | none => none

def escape? (verbose : Bool) (cs : List Char) : Option (Pattern × List Char) :=
  match cs with
  | [] => none
  | c :: cs =>
    if c = 'x' then hexChar? verbose 2 cs
    else if c = 'u' then hexChar? verbose 4 cs
    else if c = 'U' then hexChar? verbose 8 cs
    else if ['d', 's', 'w'].contains c then some (.kind false, cs)
    else if ['D', 'S', 'W'].contains c then some (.kind true, cs)
    else if isEscapable c || ['a', 'f', 't', 'n', 'r', 'v'].contains c then some (.char c false, cs)
    else if c = 'A' ∨ c = 'z' then some (.bound, cs)
    else if ['b', 'B', '<', '>'].contains c then some (.wordBound, cs)
    else none

def escaped (p : Pattern) : Pattern :=
  match p with
  | .char 'a' false => .char '\x07' false
  | .char 'f' false => .char '\x0c' false
  | .char 't' false => .char '\t' false
  | .char 'n' false => .char '\n' false
  | .char 'r' false => .char '\r' false
  | .char 'v' false => .char '\x0b' false
  | p => p

/-! ## Classes -/

def classAtom? (verbose : Bool) (cs : List Char) : Option (Pattern × List Char) :=
  match cs with
  | '\\' :: cs => (escape? verbose cs).map fun (p, cs) => (escaped p, cs)
  | c :: cs => some (.char c false, cs)
  | [] => none

def itemOf? : Pattern → Option ClassItem
  | .char c _ => some (.range c c)
  | .kind negated => some (.kind negated)
  | _ => none

def rangeOf? (low high : Pattern) : Option ClassItem :=
  match low, high with
  | .char low _, .char high _ => if low ≤ high then some (.range low high) else none
  | _, _ => none

/-- A hyphen makes a range unless a bracket or another hyphen follows it. -/
def classItem? (verbose : Bool) (cs : List Char) : Option (ClassItem × List Char) :=
  match classAtom? verbose cs with
  | none => none
  | some (low, cs) =>
    match skip verbose cs with
    | [] => none
    | '-' :: rest =>
      if peek? verbose rest = some ']' ∨ peek? verbose rest = some '-' then
        (itemOf? low).map fun item => (item, '-' :: rest)
      else
        match classAtom? verbose (skip verbose rest) with
        | some (high, cs) => (rangeOf? low high).map fun item => (item, cs)
        | none => none
    | cs => (itemOf? low).map fun item => (item, cs)

def classNames : List String :=
  ["alnum", "alpha", "ascii", "blank", "cntrl", "digit", "graph", "lower", "print", "punct", "space",
    "upper", "word", "xdigit"]

def namedClass? (cs : List Char) : Option (ClassItem × List Char) :=
  match cs with
  | ':' :: cs =>
    let (negated, cs) :=
      match cs with
      | '^' :: cs => (true, cs)
      | cs => (false, cs)
    match cs.dropWhile (· ≠ ':') with
    | ':' :: ']' :: rest =>
      if classNames.contains (String.ofList (cs.takeWhile (· ≠ ':'))) then some (.named negated, rest)
      else none
    | _ => none
  | _ => none

def leadingHyphens (verbose : Bool) : Nat → List Char → List ClassItem × List Char
  | 0, cs => ([], cs)
  | fuel + 1, cs =>
    match cs with
    | '-' :: cs =>
      let (items, cs) := leadingHyphens verbose fuel (skip verbose cs)
      (.range '-' '-' :: items, cs)
    | cs => ([], cs)

/-- The items that stand for themselves at the beginning of a class; so does a closing bracket. -/
def leadingItems (verbose : Bool) (cs : List Char) : List ClassItem × List Char :=
  match leadingHyphens verbose cs.length cs with
  | ([], ']' :: cs) => ([.range ']' ']'], skip verbose cs)
  | read => read

def joined (left : Option ClassSet) (reversed : List ClassItem) : ClassSet :=
  match left with
  | some left => .operation left (.items reversed.reverse)
  | none => .items reversed.reverse

mutual

def charClass? (verbose : Bool) : Nat → List Char → Option (CharClass × List Char)
  | 0, _ => none
  | fuel + 1, cs =>
    let (negated, cs) :=
      match skip verbose cs with
      | '^' :: cs => (true, skip verbose cs)
      | cs => (false, cs)
    let (items, cs) := leadingItems verbose cs
    (classRest? verbose fuel none items.reverse cs).map fun (set, cs) => (.mk negated set, cs)

/-- The rest of a class up to its closing bracket; the items so far come in reverse. -/
def classRest? (verbose : Bool) :
    Nat → Option ClassSet → List ClassItem → List Char → Option (ClassSet × List Char)
  | 0, _, _, _ => none
  | fuel + 1, left, items, cs =>
    match skip verbose cs with
    | [] => none
    | ']' :: cs => some (joined left items, cs)
    | '&' :: '&' :: cs => classRest? verbose fuel (some (joined left items)) [] cs
    | '-' :: '-' :: cs => classRest? verbose fuel (some (joined left items)) [] cs
    | '~' :: '~' :: cs => classRest? verbose fuel (some (joined left items)) [] cs
    | '[' :: cs =>
      match namedClass? cs with
      | some (item, cs) => classRest? verbose fuel left (item :: items) cs
      | none =>
        match charClass? verbose fuel cs with
        | some (c, cs) => classRest? verbose fuel left (.nested c :: items) cs
        | none => none
    | cs =>
      match classItem? verbose cs with
      | some (item, cs) => classRest? verbose fuel left (item :: items) cs
      | none => none

end

/-! ## Groups -/

def flag? (c : Char) : Option PatternFlag :=
  match c with
  | 'i' => some .caseless
  | 'm' => some .multiline
  | 's' => some .dotMatchesNewline
  | 'U' => some .swapGreed
  | 'u' => some .unicode
  | 'R' => some .carriageReturn
  | 'x' => some .verbose
  | _ => none

def flags? (cs : List Char) : Option (List PatternFlag) := cs.mapM flag?

/-- Flags, each once, and one hyphen at most with flags behind it. -/
def flagChange? (cs : List Char) : Option FlagChange :=
  let change : Option FlagChange :=
    match cs.dropWhile (· ≠ '-') with
    | [] => (flags? cs).map fun on => ⟨on, []⟩
    | ['-'] => none
    | _ :: off =>
      match flags? (cs.takeWhile (· ≠ '-')), flags? off with
      | some on, some off => some ⟨on, off⟩
      | _, _ => none
  change.bind fun change => if (change.on ++ change.off).Nodup then some change else none

def isNameChar (c : Char) : Bool :=
  c = '_' || c = '.' || c = '[' || c = ']' || isAlphanumeric c

def isName (cs : List Char) : Bool :=
  match cs with
  | c :: _ => (c = '_' || isAlphabetic c) && cs.all isNameChar
  | [] => false

def groupName? (names : List (List Char)) (cs : List Char) : Option (List Char × List Char) :=
  let name := cs.takeWhile (· ≠ '>')
  match cs.dropWhile (· ≠ '>') with
  | _ :: rest => if isName name && !names.contains name then some (name, rest) else none
  | [] => none

inductive Opening where
  | flags (change : FlagChange)
  | group (change : FlagChange) (names : List (List Char))

def endsFlags (c : Char) : Bool := c = ':' || c = ')'

def opening? (names : List (List Char)) (cs : List Char) : Option (Opening × List Char) :=
  let named (cs : List Char) : Option (Opening × List Char) :=
    (groupName? names cs).map fun (name, cs) => (.group .none (name :: names), cs)
  match cs with
  | '?' :: 'P' :: '<' :: cs => named cs
  | '?' :: '<' :: cs => named cs
  | '?' :: cs =>
    match flagChange? (cs.takeWhile (!endsFlags ·)), cs.dropWhile (!endsFlags ·) with
    | some change, ':' :: rest => some (.group change names, rest)
    | some change, _ :: rest => if change = .none then none else some (.flags change, rest)
    | _, _ => none
  | cs => some (.group .none names, cs)

/-! ## Patterns -/

def sequenceOf (reversed : List Pattern) : Pattern :=
  match reversed with
  | [p] => p
  | ps => .sequence ps.reverse

def alternativesOf (reversed : List Pattern) : Pattern :=
  match reversed with
  | [p] => p
  | ps => .alternatives ps.reverse

def isRepeatable : Pattern → Bool
  | .flags _ => false
  | _ => true

/-- A question mark behind a repetition belongs to it. -/
def afterRepetition : List Char → List Char
  | '?' :: cs => cs
  | cs => cs

def isRepetition (c : Char) : Bool := c = '?' || c = '*' || c = '+'

def atom? (verbose : Bool) (c : Char) (cs : List Char) : Option (Pattern × List Char) :=
  if c = '\\' then (escape? verbose cs).map fun (p, cs) => (escaped p, cs)
  else if c = '.' then some (.dot, cs)
  else if c = '^' ∨ c = '$' then some (.bound, cs)
  else if c = '\x7b' then none
  else some (.char c false, cs)

/-- Reads up to a closing parenthesis or the end. The alternatives before this one and the items of
this one come in reverse. -/
def body? : Nat → Reading → List Pattern → List Pattern → List Char →
    Option (Pattern × Reading × List Char)
  | 0, _, _, _, _ => none
  | fuel + 1, r, before, items, cs =>
    match skip r.verbose cs with
    | [] => some (alternativesOf (sequenceOf items :: before), r, [])
    | ')' :: cs => some (alternativesOf (sequenceOf items :: before), r, ')' :: cs)
    | '|' :: cs => body? fuel r (sequenceOf items :: before) [] cs
    | '(' :: cs =>
      match opening? r.names (skip r.verbose cs) with
      | none => none
      | some (.flags change, cs) =>
        body? fuel { r with verbose := change.apply .verbose r.verbose } before
          (.flags change :: items) cs
      | some (.group change names, cs) =>
        match body? fuel ⟨change.apply .verbose r.verbose, names⟩ [] [] cs with
        | some (p, inner, ')' :: cs) =>
          body? fuel ⟨r.verbose, inner.names⟩ before (.group change p :: items) cs
        | _ => none
    | '[' :: cs =>
      match charClass? r.verbose fuel cs with
      | some (c, cs) => body? fuel r before (.oneOf c :: items) cs
      | none => none
    | c :: cs =>
      if isRepetition c then
        match items with
        | p :: items =>
          if isRepeatable p then body? fuel r before (.repeated p :: items) (afterRepetition cs)
          else none
        | [] => none
      else
        match atom? r.verbose c cs with
        | some (p, cs) => body? fuel r before (p :: items) cs
        | none => none

def parseChars? (cs : List Char) : Option Pattern :=
  match body? (2 * cs.length + 2) ⟨false, []⟩ [] [] cs with
  | some (p, _, []) => some p
  | _ => none

def isUsable (cs : List Char) : Bool := (parseChars? cs).any isSupported

end RelayGateway.Pattern
