import RelayGateway.Failure.Codec
import RelayGateway.Script
import RelayGateway.Session.Codec

/-! # Scripts in JSON

A script is read leniently: what is missing keeps its value. Bytes are written as text, or in
hexadecimal as `{"hex": ..}`.
-/
namespace RelayGateway

def Bytes.ofJson (j : Json) : Bytes :=
  match j with
  | .string s => Bytes.ofString s
  | _ => (((j.field "hex").string?).bind Bytes.ofHex?).getD []

def Bytes.toJson (bs : Bytes) : Json :=
  match Bytes.text? bs with
  | some s => .string s
  | none => .object [("hex", .string (Bytes.hex bs))]

def Bytes.given? : Json → Option Bytes
  | .null => none
  | j => some (Bytes.ofJson j)

def Json.items (j : Json) (name : String) : List Json := ((j.field name).array?).getD []

def Json.number? (j : Json) (name : String) : Option Nat := (j.field name).natural? wordBound

def Tampering.ofJson (j : Json) : Tampering :=
  ⟨(j.field "session_id").string?, (j.field "supplier").string?, (j.field "app_address").string?,
    Bytes.given? (j.field "payload")⟩

def SignerScript.ofJson (j : Json) : SignerScript :=
  ⟨j.number "delay_ms", SignerError.ofJson? (j.field "err"), Tampering.ofJson (j.field "tamper")⟩

def TransportRule.ofJson (j : Json) : TransportRule :=
  ⟨j.text "prefix", j.number "delay_ms", TransportError.ofJson? (j.field "err"),
    Bytes.given? (j.field "reply")⟩

def ScriptedSession.ofJson (j : Json) : ScriptedSession :=
  ⟨j.text "service", j.text "app", Session.ofJson? (j.field "session"),
    ChainError.ofJson? (j.field "err"), j.number? "delay_ms"⟩

namespace ChainScript

/-- The keys per address; of two for one address the later counts. -/
def keysOfJson : Json → List (String × String)
  | .object members => members.reverse.filterMap fun m => m.2.string?.map fun key => (m.1, key)
  | _ => []

def update (c : ChainScript) (j : Json) : ChainScript :=
  let given {α : Type} (name : String) (old : α) (read : Json → α) : α :=
    match j.member? name with
    | some v => read v
    | none => old
  let apps (v : Json) : List Application := ((v.array?).getD []).filterMap Application.ofJson?
  let number (v : Json) : Nat := (v.natural? wordBound).getD 0
  { apps := given "apps" c.apps apps
    extraApps := given "extra_apps" c.extraApps apps
    appsFailure := given "apps_err" c.appsFailure ChainError.ofJson?
    appsDelay := given "apps_delay_ms" c.appsDelay number
    appFailure := given "app_err" c.appFailure ChainError.ofJson?
    appDelay := given "app_delay_ms" c.appDelay number
    sessions := given "sessions" c.sessions fun v =>
      ((v.array?).getD []).map ScriptedSession.ofJson
    sessionDelay := given "session_delay_ms" c.sessionDelay number
    height := given "height" c.height number
    heightFailure := given "height_err" c.heightFailure ChainError.ofJson?
    heightDelay := given "height_delay_ms" c.heightDelay number
    validateFailure := given "validate_err" c.validateFailure ChainError.ofJson?
    validateDelay := given "validate_delay_ms" c.validateDelay number
    validateStatus := given "validate_status" c.validateStatus fun v => (v.natural? 65536).getD 200
    validatePayload := given "validate_payload" c.validatePayload Bytes.given?
    keys := given "keys" c.keys keysOfJson
    keyFailure := given "key_err" c.keyFailure ChainError.ofJson?
    keyDelay := given "key_delay_ms" c.keyDelay number
    healthy := given "healthy" c.healthy fun v => v.bool?.getD true }

end ChainScript

namespace Script

def ofJson (j : Json) : Script :=
  { (default : Script) with
    chain := ChainScript.update default (j.field "chain")
    signer := SignerScript.ofJson (j.field "signer")
    transport := (j.items "transport").map TransportRule.ofJson }

end Script
end RelayGateway
