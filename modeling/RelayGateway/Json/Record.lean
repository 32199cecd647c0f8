import RelayGateway.Json.Basic
import RelayGateway.Readable

/-! # Records in JSON

A record is written as an object, or as the array of its fields in order. In an object the order is
free, unknown names are ignored and a known name may stand only once. In an array only trailing
fields may be left out, and no more items may stand than there are fields.
-/
namespace RelayGateway.Json

structure Record where
  positional : Bool
  given : Fields Json

namespace Record

def of? (names : List String) (j : Json) : Option Record :=
  match j with
  | object members =>
    let known := members.filter (fun m => names.contains m.1)
    if (known.map Prod.fst).Nodup then some ⟨false, known⟩ else none
  | array items => if items.length ≤ names.length then some ⟨true, names.zip items⟩ else none
  | _ => none

variable {α : Type}

def required (r : Record) (name : String) (read : Json → Option α) : Option α :=
  r.given.required name read

def defaulted (r : Record) (name : String) (fallback : α) (read : Json → Option α) : Option α :=
  r.given.defaulted name fallback read

/-- A field that may be `null`, and in an object may be left out. -/
def optional (r : Record) (name : String) (read : Json → Option α) : Option (Option α) :=
  match r.given.lookup name with
  | some j => nullable? read j
  | none => if r.positional then none else some none

end Record

instance : Readable Json where
  number? := natural? wordBound
  truth? := bool?
  text? := string?
  items? := array?
  fields? names j := (Record.of? names j).map Record.given

end RelayGateway.Json
