/-! # TOML values

What a TOML document denotes: a table of values. Dates and times are kept as text in their full form.
-/
namespace RelayGateway.Toml

inductive Value where
  | string (s : String)
  | integer (n : Int)
  | float (x : Float)
  | boolean (b : Bool)
  | moment (text : String)
  | array (items : List Value)
  | table (entries : List (String × Value))

instance : Inhabited Value := ⟨.boolean false⟩

end RelayGateway.Toml
