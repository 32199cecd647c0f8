import RelayGateway.Text.Digit
import RelayGateway.Text.Split
import RelayGateway.Text.Utf8
import RelayGateway.Url.Domain
import RelayGateway.Url.Escape

/-! # Hosts

A host is a domain, an address of IPv4 or IPv6, or, under schemes that give hosts no meaning, a name.
A domain that ends in a number must be an IPv4 address; an IPv6 address stands in brackets.
-/
namespace RelayGateway

inductive UrlError where
  | relativeWithoutBase
  | emptyHost
  | invalidDomain
  | invalidDomainCharacter
  | invalidPort
  | invalidIpv4Address
  | invalidIpv6Address
deriving DecidableEq, Inhabited

def UrlError.message : UrlError → String
  | relativeWithoutBase => "relative URL without a base"
  | emptyHost => "empty host"
  | invalidDomain => "invalid international domain name"
  | invalidDomainCharacter => "invalid domain character"
  | invalidPort => "invalid port number"
  | invalidIpv4Address => "invalid IPv4 address"
  | invalidIpv6Address => "invalid IPv6 address"

namespace Url
open Text (isDigit numberOf? split)

inductive Host where
  | domain (ascii : List Char)
  | ipv4 (address : Nat)
  /-- Eight numbers of sixteen bits. -/
  | ipv6 (pieces : List Nat)
  /-- With escapes, and nothing beyond ASCII. -/
  | name (text : List Char)
deriving DecidableEq, Inhabited

/-! ## IPv4 -/

/-- A number of an IPv4 address; the inner `none` stands for one that is too large. -/
def ipv4Number? (cs : List Char) : Option (Option Nat) :=
  let bounded (radix : Nat) (ds : List Char) : Option (Option Nat) :=
    (numberOf? radix ds).map fun n => if n < 4294967296 then some n else none
  match cs with
  | [] => none
  | '0' :: 'x' :: ds => bounded 16 ds
  | '0' :: 'X' :: ds => bounded 16 ds
  | '0' :: d :: ds => bounded 8 (d :: ds)
  | ds => bounded 10 ds

/-- The last part of a host; a point at its end does not count. -/
def lastPart (host : List Char) : List Char :=
  match (split (· = '.') host).reverse with
  | [] :: last :: _ => last
  | last :: _ => last
  | [] => []

def endsInNumber (host : List Char) : Bool :=
  (lastPart host ≠ [] && (lastPart host).all isDigit) || (ipv4Number? (lastPart host)).isSome

/-- The address that these numbers give, the last of which fills all bytes that are left. -/
def ipv4Of? (numbers : List Nat) : Option Nat :=
  match numbers.reverse with
  | [] => none
  | last :: others =>
    if last < Nat.pow 256 (4 - others.length) && others.all (· < 256) then
      let upper := numbers.dropLast.foldl (fun address n => address * 256 + n) 0
      some (upper * Nat.pow 256 (4 - others.length) + last)
    else none

def ipv4? (host : List Char) : Option Nat :=
  let parts := split (· = '.') host
  let parts := if parts.getLast? = some [] then parts.dropLast else parts
  if 4 < parts.length then none else (parts.mapM fun p => (ipv4Number? p).join).bind ipv4Of?

/-! ## IPv6 -/

def byteOf? (cs : List Char) : Option Nat :=
  if cs = [] ∨ cs.all isDigit = false ∨ (1 < cs.length ∧ cs.head? = some '0') then none
  else (numberOf? 10 cs).bind fun n => if n < 256 then some n else none

def embeddedIpv4? (cs : List Char) : Option (List Nat) :=
  match (split (· = '.') cs).map byteOf? with
  | [some a, some b, some c, some d] => some [a * 256 + b, c * 256 + d]
  | _ => none

def piece? (cs : List Char) : Option Nat :=
  if cs = [] ∨ 4 < cs.length then none else numberOf? 16 cs

/-- The pieces of a run of groups; an IPv4 address at the end is two pieces. -/
def pieces? (atEnd : Bool) (groups : List (List Char)) : Option (List Nat) :=
  match groups.reverse with
  | [] => some []
  | last :: others =>
    match others.reverse.mapM piece?, piece? last with
    | some ns, some n => some (ns ++ [n])
    | some ns, none => if atEnd then (embeddedIpv4? last).map (ns ++ ·) else none
    | none, _ => none

def splitDoubleColon : List Char → Option (List Char × List Char)
  | ':' :: ':' :: rest => some ([], rest)
  | c :: rest => (splitDoubleColon rest).map fun (before, after) => (c :: before, after)
  | [] => none

def groupsOf (cs : List Char) : List (List Char) := if cs = [] then [] else split (· = ':') cs

/-- The pieces of an address; a double colon stands for all that are missing, and for one at least. -/
def ipv6? (cs : List Char) : Option (List Nat) :=
  match splitDoubleColon cs with
  | some (before, after) =>
    match pieces? false (groupsOf before), pieces? true (groupsOf after) with
    | some ms, some ns =>
      if ms.length + ns.length ≤ 7 then
        some (ms ++ List.replicate (8 - ms.length - ns.length) 0 ++ ns)
      else none
    | _, _ => none
  | none => (pieces? true (groupsOf cs)).bind fun ns => if ns.length = 8 then some ns else none

/-! ## Reading a host -/

def isForbiddenInName (c : Char) : Bool :=
  ['\x00', '\t', '\n', '\r', ' ', '#', '/', ':', '<', '>', '?', '@', '[', '\\', ']', '^', '|'].contains c

/-- The text of a host with its escapes resolved. What is no text becomes a character that may not
stand in a domain. -/
def unescaped (host : List Char) : List Char :=
  Text.charsFrom none (percentDecode 0 (String.ofList host).toUTF8.data.toList)

def domain? (host : List Char) : Except UrlError Host :=
  match Domain.ascii? (unescaped host) with
  | none => .error .invalidDomain
  | some [] => .error .emptyHost
  | some domain =>
    if endsInNumber domain then
      match ipv4? domain with
      | some address => .ok (.ipv4 address)
      | none => .error .invalidIpv4Address
    else .ok (.domain domain)

def bracketed? (host : List Char) : Except UrlError Host :=
  match if host.getLast? = some ']' then ipv6? (host.drop 1).dropLast else none with
  | some pieces => .ok (.ipv6 pieces)
  | none => .error .invalidIpv6Address

/-- The host that a text spells; `meaningful` says whether it has to be a domain or an address. -/
def host? (meaningful : Bool) (host : List Char) : Except UrlError Host :=
  if host.head? = some '[' then bracketed? host
  else if meaningful then domain? host
  else if host.any isForbiddenInName then .error .invalidDomainCharacter
  else .ok (.name (escape [] host))

/-! ## Writing a host -/

namespace Host

def ipv4Chars (address : Nat) : List Char :=
  List.intercalate ['.'] <| [16777216, 65536, 256, 1].map fun unit =>
    Nat.toDigits 10 (address / unit % 256)

def zeros (pieces : List Nat) : Nat := (pieces.takeWhile (· = 0)).length

def longestZeros (pieces : List Nat) : Nat × Nat :=
  (List.range 8).foldl (fun best i =>
    if best.2 < zeros (pieces.drop i) then (i, zeros (pieces.drop i)) else best) (0, 0)

def piecesChars (pieces : List Nat) : List Char :=
  List.intercalate [':'] (pieces.map (Nat.toDigits 16))

def ipv6Chars (pieces : List Nat) : List Char :=
  let (start, count) := longestZeros pieces
  if count < 2 then piecesChars pieces
  else piecesChars (pieces.take start) ++ [':', ':'] ++ piecesChars (pieces.drop (start + count))

def chars : Host → List Char
  | domain ascii => ascii
  | ipv4 address => ipv4Chars address
  | ipv6 pieces => '[' :: ipv6Chars pieces ++ [']']
  | name text => text

end Host
end Url
end RelayGateway
