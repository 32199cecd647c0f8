import RelayGateway.Text.Composition
import RelayGateway.Text.Direction
import RelayGateway.Text.Joining
import RelayGateway.Text.Mark
import RelayGateway.Text.Punycode
import RelayGateway.Url.Domain.Form

/-! # Domains

Domains are sent in ASCII. The characters of a domain are brought into one form, and its labels, the
parts between the points, are checked; a label beyond ASCII is then written in Punycode behind the
prefix `xn--`. A label that has the prefix already must be what such writing gives (UTS 46).
-/
namespace RelayGateway.Url.Domain
open Text (split isMark isVirama joining Joining direction Direction composed)

def isAscii (c : Char) : Bool := c.toNat < 128

def isForbidden (c : Char) : Bool :=
  c ≤ ' ' || c = '\x7f' || ['#', '%', '/', ':', '<', '>', '?', '@', '[', '\\', ']', '^', '|'].contains c

def mapped? (cs : List Char) : Option (List Char) :=
  let text := if cs.all isAscii then some (cs.map Char.toLower) else
    (cs.mapM form?).map fun forms => composed forms.flatten
  match text with
  | some text => if text.any isForbidden then none else some text
  | none => none

/-! ## Joiners -/

def nonJoiner : Char := '\u200c'

def joiner : Char := '\u200d'

/-- Whether the next character that is not transparent joins in one of these ways. -/
def joinsAs (ways : List Joining) (cs : List Char) : Bool :=
  match cs.dropWhile (joining · = .transparent) with
  | c :: _ => ways.contains (joining c)
  | [] => false

/-- A joiner stands behind a virama; one that keeps letters apart may also stand between two letters
that would join. The characters before it come in reverse. -/
def joinerFits (c : Char) (before after : List Char) : Bool :=
  match before with
  | [] => false
  | p :: _ =>
    isVirama p ||
      (c = nonJoiner && joinsAs [.left, .dual] before && joinsAs [.right, .dual] after)

def joinersFit : List Char → List Char → Bool
  | _, [] => true
  | before, c :: rest =>
    ((c ≠ joiner && c ≠ nonJoiner) || joinerFits c before rest) && joinersFit (c :: before) rest

/-! ## Directions -/

/-- Whether a character makes a domain one that runs in both directions. No character below the Hebrew
letters does. -/
def isRightward (c : Char) : Bool :=
  0x590 ≤ c.toNat && [Direction.rightToLeft, .arabicLetter, .arabicNumber].contains (direction c)

def isInner (d : Direction) : Bool :=
  [Direction.europeanNumber, .europeanSeparator, .commonSeparator, .europeanTerminator,
    .otherNeutral, .boundaryNeutral, .nonspacingMark].contains d

/-- Behind the first character of a label that runs to the right; marks at the end do not count. -/
def tailFitsLeftToRight (ds : List Direction) : Bool :=
  ds.all (fun d => d = .leftToRight || isInner d) &&
    match ds.getLast? with
    | none => true
    | some last => last = .leftToRight || last = .europeanNumber

def tailFitsRightToLeft (ds : List Direction) : Bool :=
  let isRight (d : Direction) : Bool := d = .rightToLeft || d = .arabicLetter
  ds.all (fun d => isRight d || d = .arabicNumber || isInner d) &&
    !(ds.contains .europeanNumber && ds.contains .arabicNumber) &&
    match ds.getLast? with
    | none => true
    | some last => isRight last || last = .europeanNumber || last = .arabicNumber

/-- The rule for labels of a domain that runs in both directions (RFC 5893). -/
def directionsFit (label : List Char) : Bool :=
  match label.map direction with
  | [] => true
  | first :: tail =>
    let tail := (tail.reverse.dropWhile (· = .nonspacingMark)).reverse
    match first with
    | .leftToRight => tailFitsLeftToRight tail
    | .rightToLeft => tailFitsRightToLeft tail
    | .arabicLetter => tailFitsRightToLeft tail
    | _ => false

/-! ## Labels -/

def asciiMark : List Char := ['x', 'n', '-', '-']

/-- Longer labels beyond ASCII are not written in Punycode. -/
def maxLength : Nat := 1000

def maxEncodedLength : Nat := 2000

def isWellFormed (label : List Char) : Bool :=
  label.all isAscii ||
    (!(label.head?.any isMark) && joinersFit [] label && label.length ≤ maxLength)

def decoded? (cs : List Char) : Option (List Char) :=
  if cs = [] ∨ cs.getLast? = some '-' ∨ maxEncodedLength < cs.length then none
  else
    match Text.Punycode.decode? cs with
    | some label => if label.all isPlain && composed label = label then some label else none
    | none => none

structure Label where
  /-- The label as it is read. -/
  text : List Char
  /-- The label as it is sent. -/
  ascii : List Char

def label? (cs : List Char) : Option Label :=
  if asciiMark.isPrefixOf cs then
    (decoded? (cs.drop asciiMark.length)).bind fun text =>
      if isWellFormed text then some ⟨text, cs⟩ else none
  else if isWellFormed cs then
    some ⟨cs, if cs.all isAscii then cs else asciiMark ++ Text.Punycode.encode cs⟩
  else none

def ascii? (cs : List Char) : Option (List Char) :=
  match (mapped? cs).bind fun text => (split (· = '.') text).mapM label? with
  | none => none
  | some labels =>
    if labels.any (·.text.any isRightward) && !(labels.all fun l => directionsFit l.text) then none
    else some (List.intercalate ['.'] (labels.map Label.ascii))

end RelayGateway.Url.Domain
