import RelayGateway.Json.Basic
import RelayGateway.Text.Digit

/-! # Reading JSON

A strict reader for RFC 8259: one value, blanks around it, nothing else. Each reader takes the
characters ahead and answers with what it read and the characters left over. The nesting of values
is bounded by the number of characters, which is the fuel that `parse?` starts with.
-/
namespace RelayGateway.Json
open Text (hexValue? isDigit digitsValue)

def isBlank (c : Char) : Bool := c = ' ' || c = '\t' || c = '\n' || c = '\r'

def skipBlanks (cs : List Char) : List Char := cs.dropWhile isBlank

/-- What a string is spelled with: characters as they are, and code units given by number. -/
inductive Piece where
  | char (c : Char)
  | unit (code : Nat)

def shortEscape? (c : Char) : Option Char :=
  match c with
  | '"' => some '"'
  | '\\' => some '\\'
  | '/' => some '/'
  | 'b' => some '\x08'
  | 'f' => some '\x0c'
  | 'n' => some '\n'
  | 'r' => some '\r'
  | 't' => some '\t'
  | _ => none

def readPieces : List Char → Option (List Piece × List Char)
  | [] => none
  | c :: rest =>
    if c = '"' then some ([], rest)
    else if c = '\\' then
      match rest with
      | 'u' :: a :: b :: c :: d :: rest =>
        match hexValue? a, hexValue? b, hexValue? c, hexValue? d with
        | some a, some b, some c, some d =>
          (readPieces rest).map fun (ps, cs) => (.unit (((a * 16 + b) * 16 + c) * 16 + d) :: ps, cs)
        | _, _, _, _ => none
      | e :: rest =>
        match shortEscape? e with
        | some e => (readPieces rest).map fun (ps, cs) => (.char e :: ps, cs)
        | none => none
      | [] => none
    else if c.toNat < 32 then none
    else (readPieces rest).map fun (ps, cs) => (.char c :: ps, cs)

/-- The text of a string; code units pair up as in UTF-16, and one left alone spoils it. -/
def joinPieces : List Piece → Option (List Char)
  | [] => some []
  | .char c :: rest => (joinPieces rest).map (c :: ·)
  | .unit n :: rest =>
    if 0xD800 ≤ n ∧ n < 0xDC00 then
      match rest with
      | .unit m :: rest =>
        if 0xDC00 ≤ m ∧ m < 0xE000 then
          (joinPieces rest).map (Char.ofNat (0x10000 + (n - 0xD800) * 0x400 + (m - 0xDC00)) :: ·)
        else none
      | _ => none
    else if 0xDC00 ≤ n ∧ n < 0xE000 then none
    else (joinPieces rest).map (Char.ofNat n :: ·)

/-- The text after an opening quote; `none` inside stands for a string that denotes no text. -/
def readText (cs : List Char) : Option (Option String × List Char) :=
  (readPieces cs).map fun (ps, rest) => ((joinPieces ps).map String.ofList, rest)

def readFraction : List Char → Option (List Char × List Char)
  | '.' :: cs =>
    match cs.takeWhile isDigit with
    | [] => none
    | ds => some ('.' :: ds, cs.dropWhile isDigit)
  | cs => some ([], cs)

def readSign : List Char → List Char × List Char
  | '+' :: cs => (['+'], cs)
  | '-' :: cs => (['-'], cs)
  | cs => ([], cs)

def readExponent : List Char → Option (List Char × List Char)
  | e :: cs =>
    if e = 'e' ∨ e = 'E' then
      let (sign, cs) := readSign cs
      match cs.takeWhile isDigit with
      | [] => none
      | ds => some (e :: (sign ++ ds), cs.dropWhile isDigit)
    else some ([], e :: cs)
  | [] => some ([], [])

def readWhole (cs : List Char) : Option (List Char × List Char) :=
  match cs.takeWhile isDigit with
  | [] => none
  | '0' :: _ :: _ => none
  | ds => some (ds, cs.dropWhile isDigit)

def readUnsigned (minus : List Char) (cs : List Char) : Option (Json × List Char) :=
  match readWhole cs with
  | none => none
  | some (whole, cs) =>
    match readFraction cs with
    | none => none
    | some (fraction, cs) =>
      match readExponent cs with
      | none => none
      | some (exponent, cs) =>
        match minus ++ fraction ++ exponent with
        | [] => some (natural (digitsValue whole), cs)
        | _ => some (decimal (String.ofList (minus ++ whole ++ fraction ++ exponent)), cs)

def readNumber : List Char → Option (Json × List Char)
  | '-' :: cs => readUnsigned ['-'] cs
  | cs => readUnsigned [] cs

def readScalar : List Char → Option (Json × List Char)
  | 'n' :: 'u' :: 'l' :: 'l' :: cs => some (null, cs)
  | 't' :: 'r' :: 'u' :: 'e' :: cs => some (bool true, cs)
  | 'f' :: 'a' :: 'l' :: 's' :: 'e' :: cs => some (bool false, cs)
  | cs => readNumber cs

/-- The object with these members, if all of their names denote a text. -/
def ofMembers (members : List (Option String × Json)) : Json :=
  match members.mapM fun (name, j) => name.map fun name => (name, j) with
  | some members => object members
  | none => textless

mutual

def readValue : Nat → List Char → Option (Json × List Char)
  | 0, _ => none
  | fuel + 1, cs =>
    match skipBlanks cs with
    | '"' :: cs =>
      match readText cs with
      | some (some s, cs) => some (string s, cs)
      | some (none, cs) => some (textless, cs)
      | none => none
    | '[' :: cs =>
      match skipBlanks cs with
      | ']' :: cs => some (array [], cs)
      | cs => (readItems fuel cs).map fun (items, cs) => (array items, cs)
    | '\x7b' :: cs =>
      match skipBlanks cs with
      | '\x7d' :: cs => some (object [], cs)
      | cs => (readMembers fuel cs).map fun (members, cs) => (ofMembers members, cs)
    | cs => readScalar cs

def readItems : Nat → List Char → Option (List Json × List Char)
  | 0, _ => none
  | fuel + 1, cs =>
    match readValue fuel cs with
    | none => none
    | some (j, cs) =>
      match skipBlanks cs with
      | ',' :: cs => (readItems fuel cs).map fun (items, cs) => (j :: items, cs)
      | ']' :: cs => some ([j], cs)
      | _ => none

def readMembers : Nat → List Char → Option (List (Option String × Json) × List Char)
  | 0, _ => none
  | fuel + 1, cs =>
    match skipBlanks cs with
    | '"' :: cs =>
      match readText cs with
      | some (name, cs) =>
        match skipBlanks cs with
        | ':' :: cs =>
          match readValue fuel cs with
          | none => none
          | some (j, cs) =>
            match skipBlanks cs with
            | ',' :: cs => (readMembers fuel cs).map fun (members, cs) => ((name, j) :: members, cs)
            | '\x7d' :: cs => some ([(name, j)], cs)
            | _ => none
        | _ => none
      | none => none
    | _ => none

end

def parseChars? (cs : List Char) : Option Json :=
  match readValue (cs.length + 1) cs with
  | some (j, rest) => if skipBlanks rest = [] then some j else none
  | none => none

def parse? (text : String) : Option Json := parseChars? text.toList

end RelayGateway.Json
