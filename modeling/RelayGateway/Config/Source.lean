import RelayGateway.Config
import RelayGateway.Config.Setting
import RelayGateway.Toml.Parser

/-! # Where a configuration comes from

Three sources are laid over each other: built-in settings, a document, and the environment. A later
source wins. From the environment come the variables whose names begin with `RELAY__`, in either
letter case; the rest of such a name is the path of a setting, with two underscores between its steps,
and the value of the variable is its text.
-/
namespace RelayGateway

abbrev Environment := List (String × String)

def pointed : List Char → List Char
  | '_' :: '_' :: cs => '.' :: pointed cs
  | c :: cs => c :: pointed cs
  | [] => []

/-- What the name of a variable says about settings, if it says anything. -/
def settingName? (variableName : String) : Option String :=
  let mark := "relay__".toList
  let name := Text.lower variableName
  if mark.isPrefixOf name then some (String.ofList (pointed (name.drop mark.length))) else none

def Environment.settings (env : Environment) : List (String × Setting) :=
  env.filterMap fun (name, value) => (settingName? name).map fun name => (name, .text value)

namespace GatewayConfig

def builtIn : List (String × Setting) :=
  [("protocol.name", .text "shannon"), ("logging.level", .text "info"),
    ("logging.format", .text "pretty")]

def fileSettings? : Option String → Option (List (String × Setting))
  | none => some []
  | some file => (Toml.parse? file).map Setting.ofEntries

def settings? (file : Option String) (env : Environment) : Option Setting :=
  (fileSettings? file).map fun source =>
    ((Setting.empty.overlay builtIn).overlay source).overlay env.settings

/-- The configuration that a file and an environment give; none if the file is no document or a
setting has no meaning. -/
def ofSources? (file : Option String) (env : Environment) : Option GatewayConfig :=
  (settings? file env).bind read?

end GatewayConfig
end RelayGateway
