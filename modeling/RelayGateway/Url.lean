import RelayGateway.Url.Host

/-! # URLs

Whether a text is a URL, and if not, why. The rules are those of the URL standard for a text without
a base: blanks around the text and line breaks inside it do not count, a special scheme needs a host,
a host is a domain, an IPv4 or an IPv6 address, and a port has at most sixteen bits. Paths, queries
and fragments are never wrong.
-/
namespace RelayGateway

structure Url where
  scheme : String
  host : Option Url.Host
  /-- The port, unless it is the one that the scheme has anyway. -/
  port : Option Nat
deriving DecidableEq, Inhabited

namespace Url
open Text (isLetter isDigit numberOf?)

/-! ## Schemes -/

inductive SchemeKind where
  | special
  | file
  | other
deriving DecidableEq

def schemeKind (scheme : String) : SchemeKind :=
  if scheme = "file" then .file
  else if ["http", "https", "ws", "wss", "ftp"].contains scheme then .special
  else .other

/-- Blanks and control characters around a text do not count, nor do tabs and line breaks in it. -/
def significant (text : String) : List Char :=
  let outer := (text.toList.dropWhile (· ≤ ' ')).reverse.dropWhile (· ≤ ' ')
  outer.reverse.filter fun c => c ≠ '\t' ∧ c ≠ '\n' ∧ c ≠ '\r'

def isSchemeChar (c : Char) : Bool := isLetter c || isDigit c || c = '+' || c = '-' || c = '.'

def scheme? (cs : List Char) : Option (List Char × List Char) :=
  match cs with
  | c :: _ =>
    if isLetter c then
      match cs.dropWhile isSchemeChar with
      | ':' :: rest => some ((cs.takeWhile isSchemeChar).map Char.toLower, rest)
      | _ => none
    else none
  | [] => none

/-! ## Authorities -/

structure Authority where
  host : Option Host
  port : Option Nat
deriving DecidableEq, Inhabited

def endsAuthority (kind : SchemeKind) (c : Char) : Bool :=
  c = '/' || c = '?' || c = '#' || (kind ≠ .other && c = '\\')

def splitHost : Bool → List Char → List Char × List Char
  | _, [] => ([], [])
  | inside, c :: rest =>
    if c = ':' ∧ inside = false then ([], c :: rest)
    else
      let inside := if c = '[' then true else if c = ']' then false else inside
      let (host, rest) := splitHost inside rest
      (c :: host, rest)

def defaultPort? (scheme : String) : Option Nat :=
  if scheme = "http" ∨ scheme = "ws" then some 80
  else if scheme = "https" ∨ scheme = "wss" then some 443
  else if scheme = "ftp" then some 21
  else none

/-- The port behind a host, if there is one; a backslash ends it under every scheme. -/
def port? (scheme : String) (cs : List Char) : Except UrlError (Option Nat) :=
  match (cs.drop 1).takeWhile (· ≠ '\\') with
  | [] => .ok none
  | digits =>
    match numberOf? 10 digits with
    | some n =>
      if 65536 ≤ n then .error .invalidPort
      else .ok (if defaultPort? scheme = some n then none else some n)
    | none => .error .invalidPort

def afterLastAt (cs : List Char) : List Char := (cs.reverse.takeWhile (· ≠ '@')).reverse

def userinfo? (authority : List Char) : Option (List Char) :=
  if authority.contains '@' then some (authority.take (authority.length - (afterLastAt authority).length - 1))
  else none

def namesUser (userinfo : Option (List Char)) : Bool :=
  match userinfo with
  | none => false
  | some cs => cs ≠ [] && cs ≠ [':']

/-- A host may be missing under a scheme without special rules, if neither a user nor a port is given.
An at sign that the authority begins and ends with is not enough when more follows. -/
def missingHost (kind : SchemeKind) (userinfo : Option (List Char)) (port rest : List Char) :
    Except UrlError Authority :=
  if kind = .special || port ≠ [] || namesUser userinfo || (userinfo = some [] && rest ≠ []) then
    .error .emptyHost
  else .ok ⟨none, none⟩

def authority? (kind : SchemeKind) (scheme : String) (cs : List Char) : Except UrlError Authority :=
  let authority := cs.takeWhile (!endsAuthority kind ·)
  let (host, port) := splitHost false (afterLastAt authority)
  if host = [] then
    missingHost kind (userinfo? authority) port (cs.dropWhile (!endsAuthority kind ·))
  else
    match host? (kind ≠ .other) host with
    | .error e => .error e
    | .ok host => (port? scheme port).map fun port => ⟨some host, port⟩

def isSlash (c : Char) : Bool := c = '/' || c = '\\'

def isDriveLetter (cs : List Char) : Bool :=
  match cs with
  | [a, b] => isLetter a && (b = ':' || b = '|')
  | _ => false

def fileHost? (cs : List Char) : Except UrlError Authority :=
  match cs with
  | a :: b :: rest =>
    let host := rest.takeWhile (!endsAuthority .file ·)
    if !isSlash a || !isSlash b || host = [] || isDriveLetter host then .ok ⟨none, none⟩
    else
      (host? true host).map fun host =>
        if host = .domain "localhost".toList then ⟨none, none⟩ else ⟨some host, none⟩
  | _ => .ok ⟨none, none⟩

def afterScheme? (scheme : String) (cs : List Char) : Except UrlError Authority :=
  match schemeKind scheme with
  | .special => authority? .special scheme (cs.dropWhile isSlash)
  | .file => fileHost? cs
  | .other =>
    match cs with
    | '/' :: '/' :: rest => authority? .other scheme rest
    | _ => .ok ⟨none, none⟩

def parse (text : String) : Except UrlError Url :=
  match scheme? (significant text) with
  | none => .error .relativeWithoutBase
  | some (scheme, rest) =>
    let scheme := String.ofList scheme
    (afterScheme? scheme rest).map fun a => ⟨scheme, a.host, a.port⟩

def isValid (text : String) : Bool :=
  match parse text with
  | .ok _ => true
  | .error _ => false

end Url
end RelayGateway
