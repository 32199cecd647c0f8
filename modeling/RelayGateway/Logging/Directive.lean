import RelayGateway.Logging.Field
import RelayGateway.Logging.Level
import RelayGateway.Text.Blank

/-! # Log directives

A directive sets a level, for everything or for one target; it may also be narrowed to a span and to a
field, as in `target[span\x7bfield=value\x7d]=level`. What is left out of the level, or a target
alone, means everything.

The parts of a directive are found in its text without the blanks around it, and then cut out of the
text with these blanks, at the same places. So blanks at the end belong to the last part, and blanks at
the beginning move every part.
-/
namespace RelayGateway

structure LogDirective where
  target : Option (List Char)
  span : Option (List Char)
  field : Option FieldMatch
  level : LogLevel
deriving BEq, Inhabited

namespace LogDirective

/-! ## Places in a text -/

/-- What begins at a byte, unless that is inside of a character. -/
def dropBytes? : Nat → List Char → Option (List Char)
  | 0, cs => some cs
  | _, [] => none
  | n, c :: cs => if c.utf8Size ≤ n then dropBytes? (n - c.utf8Size) cs else none

def takeBytes? : Nat → List Char → Option (List Char)
  | 0, _ => some []
  | _, [] => none
  | n, c :: cs =>
    if c.utf8Size ≤ n then (takeBytes? (n - c.utf8Size) cs).map (c :: ·) else none

def cut? (text : List Char) (low high : Nat) : Option (List Char) :=
  (dropBytes? low text).bind (takeBytes? (high - low))

def numbered : Nat → List Char → List (Nat × Char)
  | _, [] => []
  | n, c :: cs => (n, c) :: numbered (n + c.utf8Size) cs

def trimmed (cs : List Char) : List Char :=
  ((Text.skipBlanks cs).reverse.dropWhile Text.isBlank).reverse

/-! ## Reading -/

/-- The part of a directive that is being read, and the byte at which it begins. -/
inductive Place where
  | start
  | targetOrLevel
  | span (low : Nat)
  | field (low : Nat)
  | behindField
  | behindBracket
  | level (low : Nat)

def startsTarget (c : Char) : Bool :=
  c = '-' || c = ':' || c = '_' || Text.isAlphanumeric c

def all : LogDirective := ⟨none, none, none, .trace⟩

def step? (text : List Char) (s : LogDirective × Place) (p : Nat × Char) :
    Option (LogDirective × Place) :=
  let (d, place) := s
  let (i, c) := p
  match place with
  | .start =>
    if c = '[' then some (d, .span (i + 1))
    else if startsTarget c then some (d, .targetOrLevel)
    else none
  | .targetOrLevel =>
    if c = '=' then (cut? text 0 i).map fun t => ({ d with target := some t }, .level (i + 1))
    else if c = '[' then (cut? text 0 i).map fun t => ({ d with target := some t }, .span (i + 1))
    else some (d, place)
  | .span low =>
    if c = ']' then (cut? text low i).map fun span => ({ d with span := some span }, .behindBracket)
    else if c = '\x7b' then
      (cut? text low i).map fun span =>
        ({ d with span := if span = [] then none else some span }, .field (i + 1))
    else some (d, place)
  | .field low =>
    if c = '\x7d' then
      match (cut? text low i).bind fun field =>
        if field = [] then none else FieldMatch.ofChars? field with
      | some field => some ({ d with field := some field }, .behindField)
      | none => none
    else some (d, place)
  | .behindField => if c = ']' then some (d, .behindBracket) else none
  | .behindBracket => if c = '=' then some (d, .level (i + 1)) else none
  | .level _ => some (d, place)

/-- The level behind an equals sign; nothing there means everything. -/
def levelOf? (cs : List Char) : Option LogLevel :=
  if cs = [] then some .trace else LogLevel.ofChars? cs

def finish? (text : List Char) (s : LogDirective × Place) : Option LogDirective :=
  let (d, place) := s
  match place with
  | .targetOrLevel =>
    match LogLevel.ofChars? text with
    | some level => some { d with level }
    | none => some { d with target := some text }
  | .level low => ((dropBytes? low text).bind levelOf?).map fun level => { d with level }
  | .behindBracket => some d
  | _ => none

def ofChars? (text : List Char) : Option LogDirective :=
  ((numbered 0 (trimmed text)).foldlM (step? text) (all, .start)).bind (finish? text)

/-! ## Writing and comparing -/

def render (d : LogDirective) : String :=
  let field := d.field.elim "" fun field => "\x7b" ++ field.render ++ "\x7d"
  let bracket :=
    if d.span.isSome || d.field.isSome then
      "[" ++ String.ofList (d.span.getD []) ++ field ++ "]"
    else ""
  let scope := String.ofList (d.target.getD []) ++ bracket
  if scope.isEmpty then d.level.name else scope ++ "=" ++ d.level.name

def sameScope (a b : LogDirective) : Bool :=
  a.target == b.target && a.span == b.span && a.field == b.field

def isDynamic (d : LogDirective) : Bool := d.span.isSome || d.field.isSome

/-- A directive that can be decided once for every place that logs. -/
def isStatic (d : LogDirective) : Bool :=
  d.span.isNone && !(d.field.any fun field => field.value.isSome)

end LogDirective
end RelayGateway
