import RelayGateway.Json.Record
import RelayGateway.Session

/-! # Session rollover

Around the end of a session suppliers may lag behind for a few blocks. The monitor keeps the greatest
block height it has heard of and a window of heights around the end of one session; while the height
lies in the window, the gateway is in rollover. All heights are 64-bit words, and arithmetic on them
stops at the bounds.
-/
namespace RelayGateway

structure RolloverConfig where
  gracePeriodBlocks : Nat
  pollIntervalSeconds : Nat
  callTimeoutSeconds : Nat
deriving DecidableEq

namespace RolloverConfig

instance : Inhabited RolloverConfig := ⟨10, 15, 10⟩

def pollInterval (c : RolloverConfig) : Nat := max 1 c.pollIntervalSeconds * 1000

def callTimeout (c : RolloverConfig) : Nat := c.callTimeoutSeconds * 1000

def read? {σ : Type} [Readable σ] (s : σ) : Option RolloverConfig := do
  let fields ← Readable.fields?
    ["grace_period_blocks", "poll_interval_seconds", "call_timeout_seconds"] s
  let grace ← fields.defaulted "grace_period_blocks" 10 Readable.number?
  let poll ← fields.defaulted "poll_interval_seconds" 15 Readable.number?
  let timeout ← fields.defaulted "call_timeout_seconds" 10 Readable.number?
  return ⟨grace, poll, timeout⟩

def toJson (c : RolloverConfig) : Json :=
  .object [("grace_period_blocks", .natural c.gracePeriodBlocks),
    ("poll_interval_seconds", .natural c.pollIntervalSeconds),
    ("call_timeout_seconds", .natural c.callTimeoutSeconds)]

end RolloverConfig

structure RolloverWindow where
  first : Nat
  last : Nat
deriving DecidableEq, Inhabited

structure RolloverMonitor where
  config : RolloverConfig
  height : Option Nat
  window : Option RolloverWindow

namespace RolloverMonitor

def new (config : RolloverConfig) : RolloverMonitor := ⟨config, none, none⟩

def inRollover (m : RolloverMonitor) : Bool :=
  match m.height, m.window with
  | some h, some w => w.first ≤ h && h ≤ w.last
  | _, _ => false

def isNewer (m : RolloverMonitor) (height : Nat) : Bool :=
  height ≠ 0 && (match m.height with
    | some h => h < height
    | none => true)

def recordHeight (m : RolloverMonitor) (height : Nat) : RolloverMonitor :=
  if m.isNewer height then { m with height := some height } else m

def windowOf (m : RolloverMonitor) (endHeight : Nat) : RolloverWindow :=
  ⟨endHeight - 1, saturatingAdd endHeight m.config.gracePeriodBlocks⟩

/-- Whether the window may move: there is none, or the height has passed it. -/
def isOpen (m : RolloverMonitor) : Bool :=
  match m.window, m.height with
  | none, _ => true
  | some w, some h => w.last < h
  | some _, none => false

def recordSession (m : RolloverMonitor) (h : SessionHeader) : RolloverMonitor :=
  if h.endHeight ≠ 0 ∧ m.isOpen then { m with window := some (m.windowOf h.endHeight) } else m

end RolloverMonitor
end RelayGateway
