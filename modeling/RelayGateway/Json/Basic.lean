import RelayGateway.Word

/-! # JSON values

Numbers are kept apart by what can be read from them: a plain run of digits is a natural number, any
other number keeps its spelling. A string that escapes half of a surrogate pair is well-formed JSON
but denotes no text; it has a value of its own, which also stands for an object with such a name.
Objects keep their members in order, repeated names included.
-/
namespace RelayGateway

inductive Json where
  | null
  | bool (value : Bool)
  | natural (value : Nat)
  | decimal (spelling : String)
  | string (value : String)
  | textless
  | array (items : List Json)
  | object (members : List (String × Json))

namespace Json

instance : Inhabited Json := ⟨null⟩

/-- The value of the first member with this name. -/
def member? (name : String) : Json → Option Json
  | object members => members.lookup name
  | _ => none

def string? : Json → Option String
  | string s => some s
  | _ => none

def bool? : Json → Option Bool
  | bool b => some b
  | _ => none

def array? : Json → Option (List Json)
  | array items => some items
  | _ => none

def members? : Json → Option (List (String × Json))
  | object members => some members
  | _ => none

def natural? (bound : Nat) : Json → Option Nat
  | natural n => if n < bound then some n else none
  | _ => none

def nullable? {α : Type} (read : Json → Option α) : Json → Option (Option α)
  | null => some none
  | j => (read j).map some

def listOf? {α : Type} (read : Json → Option α) : Json → Option (List α)
  | array items => items.mapM read
  | _ => none

/-- The name of a variant without contents: the name itself, or a lone member of that name
holding `null`. -/
def variant? : Json → Option String
  | string s => some s
  | object [(name, null)] => some name
  | _ => none

def ofOption {α : Type} (write : α → Json) : Option α → Json
  | none => null
  | some a => write a

end Json

end RelayGateway
