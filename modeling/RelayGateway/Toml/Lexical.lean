import RelayGateway.Text.Digit

/-! # The lexical level of TOML

Blanks, comments, line ends, strings and keys. Each reader takes the characters ahead and answers
with what it read and the characters left over.
-/
namespace RelayGateway.Toml
open Text (isDigit isLetter hexValue?)

abbrev Reader (α : Type) := List Char → Option (α × List Char)

def isBlank (c : Char) : Bool := c = ' ' || c = '\t'

def skipBlanks (cs : List Char) : List Char := cs.dropWhile isBlank

/-- Characters that may stand in comments and strings: no control character except the tab. -/
def isPlain (c : Char) : Bool := c = '\t' || (' ' ≤ c && c ≠ '\x7f')

def newline? : List Char → Option (List Char)
  | '\n' :: cs => some cs
  | '\r' :: '\n' :: cs => some cs
  | _ => none

def skipComment : List Char → List Char
  | '#' :: cs => cs.dropWhile isPlain
  | cs => cs

/-- What may stand after a statement: blanks, a comment, and the end of the line or of the text. -/
def endOfLine? (cs : List Char) : Option (List Char) :=
  match skipComment (skipBlanks cs) with
  | [] => some []
  | cs => newline? cs

def skipSpace : Nat → List Char → List Char
  | 0, cs => cs
  | fuel + 1, cs =>
    match skipBlanks cs with
    | '#' :: rest =>
      match newline? (rest.dropWhile isPlain) with
      | some rest => skipSpace fuel rest
      | none => '#' :: rest
    | cs =>
      match newline? cs with
      | some rest => skipSpace fuel rest
      | none => cs

/-! ## Strings -/

def validChar? (n : Nat) : Option Char :=
  if n < 0xD800 ∨ (0xE000 ≤ n ∧ n < 0x110000) then some (Char.ofNat n) else none

def hexEscape? (count : Nat) : Reader Char := fun cs =>
  let ds := cs.take count
  if ds.length < count then none
  else
    match Text.numberOf? 16 ds with
    | some n => (validChar? n).map fun c => (c, cs.drop count)
    | none => none

def escape? : Reader Char
  | 'b' :: cs => some ('\x08', cs)
  | 't' :: cs => some ('\t', cs)
  | 'n' :: cs => some ('\n', cs)
  | 'f' :: cs => some ('\x0c', cs)
  | 'r' :: cs => some ('\r', cs)
  | '"' :: cs => some ('"', cs)
  | '\\' :: cs => some ('\\', cs)
  | 'u' :: cs => hexEscape? 4 cs
  | 'U' :: cs => hexEscape? 8 cs
  | _ => none

def basicRest? : Nat → Reader (List Char)
  | 0, _ => none
  | fuel + 1, cs =>
    match cs with
    | '"' :: cs => some ([], cs)
    | '\\' :: cs =>
      match escape? cs with
      | some (c, cs) => (basicRest? fuel cs).map fun (s, cs) => (c :: s, cs)
      | none => none
    | c :: cs => if isPlain c then (basicRest? fuel cs).map fun (s, cs) => (c :: s, cs) else none
    | [] => none

def literalRest? : Reader (List Char) := fun cs =>
  match cs.dropWhile fun c => isPlain c && c ≠ '\'' with
  | '\'' :: rest => some (cs.takeWhile fun c => isPlain c && c ≠ '\'', rest)
  | _ => none

def quoteCount (quote : Char) (cs : List Char) : Nat := (cs.takeWhile (· = quote)).length

/-- After a backslash at the end of a line, everything blank up to the next text is left out. -/
def skipBreak? (fuel : Nat) (cs : List Char) : Option (List Char) :=
  (newline? (skipBlanks cs)).map fun rest => go fuel rest
where
  go : Nat → List Char → List Char
    | 0, cs => cs
    | fuel + 1, cs =>
      match newline? (skipBlanks cs) with
      | some rest => go fuel rest
      | none => skipBlanks cs

/-- The rest of a string over several lines. Three quotes end it; up to two more before them belong to
the text. Line ends become line feeds. -/
def multilineRest? (quote : Char) (escapes : Bool) : Nat → Reader (List Char)
  | 0, _ => none
  | fuel + 1, cs =>
    match cs with
    | [] => none
    | c :: rest =>
      if c = quote then
        let n := quoteCount quote cs
        if n < 3 then (multilineRest? quote escapes fuel rest).map fun (s, cs) => (c :: s, cs)
        else if n ≤ 5 then some (List.replicate (n - 3) quote, cs.drop n)
        else none
      else if c = '\\' ∧ escapes = true then
        match skipBreak? rest.length rest with
        | some rest => multilineRest? quote escapes fuel rest
        | none =>
          match escape? rest with
          | some (e, rest) => (multilineRest? quote escapes fuel rest).map fun (s, cs) => (e :: s, cs)
          | none => none
      else
        match newline? cs with
        | some rest => (multilineRest? quote escapes fuel rest).map fun (s, cs) => ('\n' :: s, cs)
        | none =>
          if isPlain c then (multilineRest? quote escapes fuel rest).map fun (s, cs) => (c :: s, cs)
          else none

/-- A line end right after the opening quotes does not belong to the text. -/
def afterOpening (cs : List Char) : List Char := (newline? cs).getD cs

def string? : Reader String := fun cs =>
  let text :=
    match cs with
    | '"' :: '"' :: '"' :: cs => multilineRest? '"' true (cs.length + 1) (afterOpening cs)
    | '\'' :: '\'' :: '\'' :: cs => multilineRest? '\'' false (cs.length + 1) (afterOpening cs)
    | '"' :: cs => basicRest? (cs.length + 1) cs
    | '\'' :: cs => literalRest? cs
    | _ => none
  text.map fun (s, cs) => (String.ofList s, cs)

/-! ## Keys -/

def isKeyChar (c : Char) : Bool := isLetter c || isDigit c || c = '-' || c = '_'

def simpleKey? : Reader String
  | '"' :: cs => (basicRest? (cs.length + 1) cs).map fun (s, cs) => (String.ofList s, cs)
  | '\'' :: cs => (literalRest? cs).map fun (s, cs) => (String.ofList s, cs)
  | cs =>
    match cs.takeWhile isKeyChar with
    | [] => none
    | name => some (String.ofList name, cs.dropWhile isKeyChar)

def depthLimit : Nat := 80

def path? : Nat → Reader (List String)
  | 0, _ => none
  | fuel + 1, cs =>
    match simpleKey? (skipBlanks cs) with
    | none => none
    | some (key, cs) =>
      match skipBlanks cs with
      | '.' :: cs => (path? fuel cs).map fun (keys, cs) => (key :: keys, cs)
      | cs => some ([key], cs)

end RelayGateway.Toml
