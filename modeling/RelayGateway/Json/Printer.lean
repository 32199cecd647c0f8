import RelayGateway.Json.Basic
import RelayGateway.Text.Digit

/-! # Writing JSON

Compact text: no blanks, members in order. In strings only the quote, the backslash and the control
characters are escaped; five of the control characters have short escapes.
-/
namespace RelayGateway.Json
open Text (hexDigit)

def escapeChar (c : Char) : List Char :=
  if c = '"' then ['\\', '"']
  else if c = '\\' then ['\\', '\\']
  else if c = '\x08' then ['\\', 'b']
  else if c = '\t' then ['\\', 't']
  else if c = '\n' then ['\\', 'n']
  else if c = '\x0c' then ['\\', 'f']
  else if c = '\r' then ['\\', 'r']
  else if c.toNat < 32 then ['\\', 'u', '0', '0', hexDigit (c.toNat / 16), hexDigit (c.toNat % 16)]
  else [c]

def quote (s : String) : List Char := '"' :: (s.toList.flatMap escapeChar ++ ['"'])

mutual

def chars : Json → List Char
  | null => ['n', 'u', 'l', 'l']
  | bool true => ['t', 'r', 'u', 'e']
  | bool false => ['f', 'a', 'l', 's', 'e']
  | natural n => Nat.toDigits 10 n
  | decimal spelling => spelling.toList
  | string s => quote s
  | textless => ['"', '\\', 'u', 'd', '8', '0', '0', '"']
  | array items => '[' :: itemChars items
  | object members => '\x7b' :: memberChars members

def itemChars : List Json → List Char
  | [] => [']']
  | [j] => chars j ++ [']']
  | j :: rest => chars j ++ ',' :: itemChars rest

def memberChars : List (String × Json) → List Char
  | [] => ['\x7d']
  | [(name, j)] => quote name ++ ':' :: (chars j ++ ['\x7d'])
  | (name, j) :: rest => quote name ++ ':' :: (chars j ++ ',' :: memberChars rest)

end

def render (j : Json) : String := String.ofList (chars j)

end RelayGateway.Json
