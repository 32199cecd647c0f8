import RelayGateway.Toml.Document
import RelayGateway.Toml.Number

/-! # Reading TOML

Values are nested to a bounded depth, which is the fuel of the readers for values; the number of
characters bounds everything else.
-/
namespace RelayGateway.Toml

def boolean? : Reader Value
  | 't' :: 'r' :: 'u' :: 'e' :: cs => some (.boolean true, cs)
  | 'f' :: 'a' :: 'l' :: 's' :: 'e' :: cs => some (.boolean false, cs)
  | _ => none

def scalar? : Reader Value := fun cs =>
  match cs with
  | '"' :: _ => (string? cs).map fun (s, cs) => (.string s, cs)
  | '\'' :: _ => (string? cs).map fun (s, cs) => (.string s, cs)
  | 't' :: _ => boolean? cs
  | 'f' :: _ => boolean? cs
  | _ => number? cs

/-- Items between brackets, after the opening one; `item?` reads an item. A comma may follow the last
item. -/
def items? (item? : Reader Value) : Nat → Reader (List Value)
  | 0, _ => none
  | fuel + 1, cs =>
    match skipSpace cs.length cs with
    | ']' :: cs => some ([], cs)
    | cs =>
      match item? cs with
      | none => none
      | some (v, cs) =>
        match skipSpace cs.length cs with
        | ',' :: cs => (items? item? fuel cs).map fun (vs, cs) => (v :: vs, cs)
        | ']' :: cs => some ([v], cs)
        | _ => none

def pair? (item? : Reader Value) : Reader (List String × Value) := fun cs =>
  match path? (depthLimit - 1) cs with
  | some (path, '=' :: cs) => (item? (skipBlanks cs)).map fun (v, cs) => ((path, v), cs)
  | _ => none

/-- Pairs between braces, after the opening one and on one line; no comma follows the last. -/
def pairs? (item? : Reader Value) : Nat → Reader (List (List String × Value))
  | 0, _ => none
  | fuel + 1, cs =>
    match pair? item? cs with
    | none => none
    | some (pair, cs) =>
      match skipBlanks cs with
      | ',' :: cs => (pairs? item? fuel cs).map fun (pairs, cs) => (pair :: pairs, cs)
      | '\x7d' :: cs => some ([pair], cs)
      | _ => none

/-- A table in braces may not be added to from outside, but paths inside it may share tables. -/
def inlineTable? (pairs : List (List String × Value)) : Option Value :=
  (tableOf? (pairs.map fun p => .assign p.1 p.2)).map .table

def value? : Nat → Reader Value
  | 0, cs =>
    match cs with
    | '[' :: _ => none
    | '\x7b' :: _ => none
    | cs => scalar? cs
  | depth + 1, cs =>
    match cs with
    | '[' :: cs => (items? (value? depth) (cs.length + 1) cs).map fun (vs, cs) => (.array vs, cs)
    | '\x7b' :: cs =>
      match skipBlanks cs with
      | '\x7d' :: cs => some (.table [], cs)
      | cs =>
        match pairs? (value? depth) (cs.length + 1) cs with
        | some (pairs, cs) => (inlineTable? pairs).map fun v => (v, cs)
        | none => none
    | cs => scalar? cs

def header? : Reader (List String) := fun cs =>
  match path? (depthLimit - 1) cs with
  | some (path, ']' :: cs) => some (path, cs)
  | _ => none

def statement? : Reader Statement := fun cs =>
  match cs with
  | '[' :: '[' :: cs =>
    match header? cs with
    | some (path, ']' :: cs) => (endOfLine? cs).map fun cs => (.element path, cs)
    | _ => none
  | '[' :: cs =>
    match header? cs with
    | some (path, cs) => (endOfLine? cs).map fun cs => (.header path, cs)
    | none => none
  | cs =>
    match pair? (value? (depthLimit - 1)) cs with
    | some ((path, v), cs) => (endOfLine? cs).map fun cs => (.assign path v, cs)
    | none => none

def statements? : Nat → List Char → Option (List Statement)
  | 0, _ => none
  | fuel + 1, cs =>
    match skipBlanks cs with
    | [] => some []
    | '#' :: cs => (endOfLine? ('#' :: cs)).bind (statements? fuel)
    | cs =>
      match newline? cs with
      | some cs => statements? fuel cs
      | none =>
        match statement? cs with
        | some (s, cs) => (statements? fuel cs).map (s :: ·)
        | none => none

def skipByteOrderMark : List Char → List Char
  | '\uFEFF' :: cs => cs
  | cs => cs

def parse? (text : String) : Option (List (String × Value)) :=
  let cs := skipByteOrderMark text.toList
  ((statements? (cs.length + 1) cs).bind tableOf?).bind withMoments?

end RelayGateway.Toml
