import RelayGateway.Decimal.Double
import RelayGateway.Logging.Pattern.Parser
import RelayGateway.Word

/-! # Fields in log directives

A directive may ask for a field, or for a field with a value. A value is a truth value, a number, or a
pattern for the text of the field, whichever its text is first.
-/
namespace RelayGateway

inductive FieldValue where
  | truth (b : Bool)
  | natural (n : Nat)
  | integer (i : Int)
  | real (x : Float)
  | notANumber
  | pattern (text : List Char)
deriving BEq, Inhabited

namespace FieldValue

def natural? (cs : List Char) : Option FieldValue :=
  let ds :=
    match cs with
    | '+' :: ds => ds
    | ds => ds
  if ds = [] then none
  else
    match Text.numberOf? 10 ds with
    | some n => if n < wordBound then some (.natural n) else none
    | none => none

/-- A number with a minus sign; one without is a natural number already if it is small enough. -/
def integer? (cs : List Char) : Option FieldValue :=
  match cs with
  | '-' :: d :: ds =>
    match Text.numberOf? 10 (d :: ds) with
    | some n => if n ≤ 9223372036854775808 then some (.integer (-n)) else none
    | none => none
  | _ => none

def real? (cs : List Char) : Option FieldValue :=
  (Decimal.ofChars? cs).map fun x => if Decimal.isNotANumber x then .notANumber else .real x

def ofChars? (cs : List Char) : Option FieldValue :=
  if cs = "true".toList then some (.truth true)
  else if cs = "false".toList then some (.truth false)
  else
    (natural? cs <|> integer? cs <|> real? cs) <|>
      if Pattern.isUsable cs then some (.pattern cs) else none

def render : FieldValue → String
  | truth b => if b then "true" else "false"
  | natural n => toString n
  | integer i => toString i
  | real x => Decimal.plainText x
  | notANumber => "NaN"
  | pattern text => String.ofList text

end FieldValue

structure FieldMatch where
  name : List Char
  value : Option FieldValue
deriving BEq, Inhabited

namespace FieldMatch

/-- A name, or a name and a value with an equals sign between them; what stands behind a second equals
sign does not count. -/
def ofChars? (cs : List Char) : Option FieldMatch :=
  let name := cs.takeWhile (· ≠ '=')
  match cs.dropWhile (· ≠ '=') with
  | _ :: rest => (FieldValue.ofChars? (rest.takeWhile (· ≠ '='))).map fun v => ⟨name, some v⟩
  | [] => some ⟨name, none⟩

def render (m : FieldMatch) : String :=
  String.ofList m.name ++ (m.value.elim "" fun v => "=" ++ v.render)

end FieldMatch
end RelayGateway
