import RelayGateway.Text.Digit

/-! # Log levels

From nothing to everything. A level is written by its name or its number.
-/
namespace RelayGateway
open Text (numberOf?)

inductive LogLevel where
  | off
  | error
  | warn
  | info
  | debug
  | trace
deriving DecidableEq, Inhabited

namespace LogLevel

def all : List LogLevel := [off, error, warn, info, debug, trace]

def name : LogLevel → String
  | off => "off"
  | error => "error"
  | warn => "warn"
  | info => "info"
  | debug => "debug"
  | trace => "trace"

def ofNumber? (cs : List Char) : Option LogLevel :=
  let ds :=
    match cs with
    | '+' :: ds => ds
    | ds => ds
  if ds = [] then none else (numberOf? 10 ds).bind fun n => all[n]?

/-- The name in any case, or the number. The empty text means errors alone. -/
def ofChars? (cs : List Char) : Option LogLevel :=
  match ofNumber? cs with
  | some level => some level
  | none =>
    if cs = [] then some error
    else all.find? fun level => level.name.toList = cs.map Char.toLower

end LogLevel

end RelayGateway
