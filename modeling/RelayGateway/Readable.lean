/-! # Sources of values

What values can be read from, strictly or leniently: a source may give a 64-bit number, a truth value,
a text, a list of sources, or the fields of a record.
-/
namespace RelayGateway

abbrev Fields (σ : Type) := List (String × σ)

namespace Fields
variable {σ α : Type}

def required (fields : Fields σ) (name : String) (read : σ → Option α) : Option α :=
  (fields.lookup name).bind read

def defaulted (fields : Fields σ) (name : String) (fallback : α) (read : σ → Option α) : Option α :=
  match fields.lookup name with
  | some s => read s
  | none => some fallback

end Fields

class Readable (σ : Type) where
  /-- A natural number below `wordBound`. -/
  number? : σ → Option Nat
  truth? : σ → Option Bool
  text? : σ → Option String
  items? : σ → Option (List σ)
  /-- The fields that are given, of those with these names. -/
  fields? : List String → σ → Option (Fields σ)

def Readable.listOf? {σ α : Type} [Readable σ] (read : σ → Option α) (s : σ) : Option (List α) :=
  (Readable.items? s).bind fun items => items.mapM read

end RelayGateway
