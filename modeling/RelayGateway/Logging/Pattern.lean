/-! # Patterns for the values of fields

Patterns are regular expressions. Nothing is known here of the letter case and the kinds of characters
beyond ASCII, so what needs it is not supported in patterns over characters: ignoring case, the classes
for digits, blanks and words, and the bounds of words. Patterns over bytes have all of it in ASCII, but
may only match whole characters.
-/
namespace RelayGateway

inductive PatternFlag where
  | caseless
  | multiline
  | dotMatchesNewline
  | swapGreed
  | unicode
  | carriageReturn
  | verbose
deriving DecidableEq, Inhabited

structure FlagChange where
  on : List PatternFlag
  off : List PatternFlag
deriving DecidableEq, Inhabited

namespace FlagChange

def none : FlagChange := ⟨[], []⟩

def apply (change : FlagChange) (flag : PatternFlag) (was : Bool) : Bool :=
  if change.on.contains flag then true else if change.off.contains flag then false else was

end FlagChange

mutual

inductive CharClass where
  | mk (negated : Bool) (set : ClassSet)

inductive ClassSet where
  | items (items : List ClassItem)
  | operation (left right : ClassSet)

inductive ClassItem where
  | range (low high : Char)
  /-- A class with a name in colons. -/
  | named (negated : Bool)
  /-- A class for digits, blanks or words. -/
  | kind (negated : Bool)
  | nested (c : CharClass)

end

inductive Pattern where
  | flags (change : FlagChange)
  /-- A character, perhaps given as a byte by two digits. -/
  | char (c : Char) (asByte : Bool)
  | dot
  | bound
  | wordBound
  | kind (negated : Bool)
  | oneOf (c : CharClass)
  | repeated (p : Pattern)
  | group (change : FlagChange) (p : Pattern)
  | alternatives (ps : List Pattern)
  | sequence (ps : List Pattern)

instance : Inhabited Pattern := ⟨.sequence []⟩

/-! ## Depth -/

namespace Pattern

/-- How many levels things nest that are next to each other in a level of their own, if there are
several. -/
def together (depths : List Nat) : Nat :=
  match depths with
  | [] => 0
  | [d] => d
  | ds => ds.foldl max 0 + 1

mutual

def classDepth : CharClass → Nat
  | .mk _ set => setDepth set + 1

def setDepth : ClassSet → Nat
  | .items items => together (itemDepths items)
  | .operation left right => max (setDepth left) (setDepth right) + 1

def itemDepths : List ClassItem → List Nat
  | [] => []
  | item :: rest => itemDepth item :: itemDepths rest

def itemDepth : ClassItem → Nat
  | .nested c => classDepth c
  | _ => 0

end

mutual

def depth : Pattern → Nat
  | .oneOf c => classDepth c
  | .repeated p => depth p + 1
  | .group _ p => depth p + 1
  | .alternatives ps => together (depths ps)
  | .sequence ps => together (depths ps)
  | _ => 0

def depths : List Pattern → List Nat
  | [] => []
  | p :: ps => depth p :: depths ps

end

def depthLimit : Nat := 250

/-! ## Support -/

structure Mode where
  caseless : Bool
  unicode : Bool
deriving DecidableEq, Inhabited

def Mode.change (m : Mode) (change : FlagChange) : Mode :=
  ⟨change.apply .caseless m.caseless, change.apply .unicode m.unicode⟩

def isAscii (c : Char) : Bool := c.toNat < 128

mutual

def supportsClass (m : Mode) : CharClass → Bool
  | .mk negated set => (m.unicode || !negated) && supportsSet m set

def supportsSet (m : Mode) : ClassSet → Bool
  | .items items => supportsItems m items
  | .operation left right => supportsSet m left && supportsSet m right

def supportsItems (m : Mode) : List ClassItem → Bool
  | [] => true
  | item :: rest => supportsItem m item && supportsItems m rest

def supportsItem (m : Mode) : ClassItem → Bool
  | .range low high => if m.unicode then !m.caseless else isAscii low && isAscii high
  | .named negated => if m.unicode then !m.caseless else !negated
  | .kind negated => !m.unicode && !negated
  | .nested c => supportsClass m c

end

mutual

/-- The mode behind a pattern that is supported; flags that are set in a group end with it. -/
def modeAfter? (m : Mode) : Pattern → Option Mode
  | .flags change => some (m.change change)
  | .char c asByte =>
    if if m.unicode then m.caseless else asByte && !isAscii c then none else some m
  | .dot => if m.unicode then some m else none
  | .bound => some m
  | .wordBound => if m.unicode then none else some m
  | .kind negated => if m.unicode || negated then none else some m
  | .oneOf c => if supportsClass m c then some m else none
  | .repeated p => modeAfter? m p
  | .group change p => (modeAfter? (m.change change) p).map fun _ => m
  | .alternatives ps => modeAfterAll? m ps
  | .sequence ps => modeAfterAll? m ps

def modeAfterAll? (m : Mode) : List Pattern → Option Mode
  | [] => some m
  | p :: ps => (modeAfter? m p).bind fun m => modeAfterAll? m ps

end

def isSupported (p : Pattern) : Bool :=
  p.depth ≤ depthLimit && (modeAfter? ⟨false, true⟩ p).isSome

end Pattern
end RelayGateway
