import RelayGateway.Logging.Directive
import RelayGateway.Text.Split

/-! # Log filters

A filter is a list of directives, written with commas between them. Of two directives for the same
things the later counts.

The gateway's own targets are logged at the configured level and everything else from `warn` on. A
setting from outside replaces that: `debug` and `trace` alone mean a level for the gateway's targets,
anything else is a filter of its own.
-/
namespace RelayGateway

structure LogFilter where
  directives : List LogDirective
deriving Inhabited

namespace LogFilter

/-- The later of two directives for the same things takes the place of the earlier. -/
def add (ds : List LogDirective) (d : LogDirective) : List LogDirective :=
  if ds.any (·.sameScope d) then ds.map fun e => if e.sameScope d then d else e else ds ++ [d]

/-- The static directives, then the dynamic ones. A directive on a field without a value is of both
kinds. -/
def ofDirectives (ds : List LogDirective) : LogFilter :=
  let statics := ds.filter (!·.isDynamic) ++ ds.filter fun d => d.isDynamic && d.isStatic
  let dynamics := ds.filter (·.isDynamic)
  ⟨statics.foldl add [] ++ dynamics.foldl add []⟩

def pieces (text : String) : List (List Char) := Text.words (· = ',') text.toList

def parse? (text : String) : Option LogFilter :=
  ((pieces text).mapM LogDirective.ofChars?).map ofDirectives

def parseLossy (text : String) : LogFilter :=
  ofDirectives ((pieces text).filterMap LogDirective.ofChars?)

def ownTargets : List String := ["relay_core", "tests"]

def ownAt (level : String) : LogFilter :=
  parseLossy (String.intercalate "," ("warn" :: ownTargets.map fun target => target ++ "=" ++ level))

def choose (level : String) (setting : Option String) : LogFilter :=
  match setting with
  | none => ownAt level
  | some s => if s = "debug" ∨ s = "trace" then ownAt s else (parse? s).getD (ownAt "debug")

def render (f : LogFilter) : String := String.intercalate "," (f.directives.map LogDirective.render)

end LogFilter
end RelayGateway
