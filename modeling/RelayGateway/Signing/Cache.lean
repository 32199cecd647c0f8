import RelayGateway.Json.Record
import RelayGateway.Signing.Key
import RelayGateway.Table

/-! # The signature cache

Identical relays have identical signatures, so signatures are stored, and calls for one key that run
at the same time share a single computation. A call that finds no stored signature joins the cell of
its key. The cell hands out one turn at a time: the call whose turn it is computes, all others wait in
the order of their arrival. When a computation succeeds its signature fills the cell and everyone
waiting takes it; when it fails or its call is dropped, the turn passes to the next in the queue.

Every function here is what one call does between two suspensions. A call is `begin`-ed once, then
`resume`-d whenever it is woken, `finish`-ed when its own computation has ended, or `cancel`-led.
-/
namespace RelayGateway

structure SignatureCacheConfig where
  enabled : Bool
  ttlSeconds : Nat
  sweepIntervalSeconds : Nat
  maxEntries : Nat
deriving DecidableEq

namespace SignatureCacheConfig

instance : Inhabited SignatureCacheConfig := ⟨true, 900, 60, 100000⟩

/-- Whether a stored signature can ever be read again. -/
def retains (c : SignatureCacheConfig) : Bool := 0 < c.ttlSeconds && 0 < c.maxEntries

def sweepInterval (c : SignatureCacheConfig) : Nat := max 1 c.sweepIntervalSeconds * 1000

def read? {σ : Type} [Readable σ] (s : σ) : Option SignatureCacheConfig := do
  let fields ← Readable.fields? ["enabled", "ttl_seconds", "sweep_interval_seconds", "max_entries"] s
  let enabled ← fields.defaulted "enabled" true Readable.truth?
  let ttl ← fields.defaulted "ttl_seconds" 900 Readable.number?
  let sweep ← fields.defaulted "sweep_interval_seconds" 60 Readable.number?
  let maxEntries ← fields.defaulted "max_entries" 100000 Readable.number?
  return ⟨enabled, ttl, sweep, maxEntries⟩

def toJson (c : SignatureCacheConfig) : Json :=
  .object [("enabled", .bool c.enabled), ("ttl_seconds", .natural c.ttlSeconds),
    ("sweep_interval_seconds", .natural c.sweepIntervalSeconds),
    ("max_entries", .natural c.maxEntries)]

end SignatureCacheConfig

abbrev CallId := Nat
abbrev CellId := Nat

inductive CallStage where
  /-- Waiting for its turn on the cell, or for the cell to be filled. -/
  | waiting (cell : CellId)
  /-- Running its own computation with the turn of the cell. -/
  | computing (cell : CellId)
  /-- Running its own computation past a disabled cache. -/
  | direct
deriving DecidableEq

def CallStage.cell? : CallStage → Option CellId
  | waiting c => some c
  | computing c => some c
  | direct => none

structure SignatureCall where
  request : RelayRequest
  app : Application
  stage : CallStage

def SignatureCall.key (c : SignatureCall) : SignatureKey := SignatureKey.ofRequest c.request c.app

structure Cell where
  value : Option SignedRelay
  turn : Option CallId
  queue : List CallId

structure SignatureCache where
  config : SignatureCacheConfig
  entries : Table SignatureKey SignedRelay
  /-- The cell that newcomers join, per key. -/
  inflight : Table SignatureKey CellId
  cells : Table CellId Cell
  calls : Table CallId SignatureCall
  nextCell : CellId
  hits : Nat
  misses : Nat

namespace SignatureCache

def new (config : SignatureCacheConfig) : SignatureCache := ⟨config, ∅, ∅, ∅, ∅, 0, 0, 0⟩

inductive Progress where
  | done (result : Except SignerError SignedRelay)
  | compute
  | wait

/-- The cache after a step, what the call has come to, and the calls that can now go on. -/
structure Step where
  cache : SignatureCache
  progress : Progress
  woken : List CallId

def countHit (c : SignatureCache) : SignatureCache := { c with hits := c.hits + 1 }

def countMiss (c : SignatureCache) : SignatureCache := { c with misses := c.misses + 1 }

def store (c : SignatureCache) (key : SignatureKey) (signed : SignedRelay) : SignatureCache :=
  if c.config.retains then { c with entries := c.entries.insert key signed } else c

def evict (c : SignatureCache) (key : SignatureKey) : SignatureCache :=
  { c with entries := c.entries.erase key }

def setCell (c : SignatureCache) (cell : CellId) (k : Cell) : SignatureCache :=
  { c with cells := c.cells.insert cell k }

def isHeld (c : SignatureCache) (cell : CellId) : Bool :=
  c.calls.values.any fun call => call.stage.cell? = some cell

/-- The call leaves. Its cell leaves the registry with it when it is filled or held by nobody else,
unless newcomers already join another cell of that key. -/
def release (c : SignatureCache) (id : CallId) : SignatureCache :=
  match c.calls.find? id with
  | none => c
  | some call =>
    let c := { c with calls := c.calls.erase id }
    match call.stage.cell? with
    | none => c
    | some cell =>
      let filled := ((c.cells.find? cell).bind Cell.value).isSome
      let held := c.isHeld cell
      let inflight :=
        if c.inflight.find? call.key = some cell ∧ (filled ∨ ¬ held) then c.inflight.erase call.key
        else c.inflight
      { c with inflight, cells := if held then c.cells else c.cells.erase cell }

def fill (c : SignatureCache) (cell : CellId) (signed : SignedRelay) : SignatureCache × List CallId :=
  match c.cells.find? cell with
  | some k => (c.setCell cell ⟨some signed, none, []⟩, k.queue)
  | none => (c, [])

def passTurn (c : SignatureCache) (cell : CellId) : SignatureCache × List CallId :=
  match c.cells.find? cell with
  | some k =>
    (c.setCell cell { k with turn := k.queue.head?, queue := k.queue.tail }, k.queue.head?.toList)
  | none => (c, [])

/-- The call goes on with what it has seen in the store: a signature fills the cell, else the call has
to compute. -/
def recheck (c : SignatureCache) (id : CallId) (call : SignatureCall) (cell : CellId)
    (seen : Option SignedRelay) : Step :=
  match seen with
  | some signed =>
    let (c, woken) := c.fill cell signed
    ⟨(c.release id).countHit, .done (.ok signed), woken⟩
  | none => ⟨{ c with calls := c.calls.insert id { call with stage := .computing cell } }, .compute, []⟩

/-- The call takes its turn: it looks again for a signature stored in the meantime. -/
def takeTurn (c : SignatureCache) (id : CallId) (call : SignatureCall) (cell : CellId) : Step :=
  c.recheck id call cell (c.entries.find? call.key)

def cellFor (c : SignatureCache) (key : SignatureKey) : SignatureCache × CellId :=
  match c.inflight.find? key with
  | some cell => (c, cell)
  | none =>
    ({ c with inflight := c.inflight.insert key c.nextCell,
              cells := c.cells.insert c.nextCell ⟨none, none, []⟩,
              nextCell := c.nextCell + 1 }, c.nextCell)

/-- A call joins the cell of its key. It has the turn of a cell that is free, and stands in the queue
of one whose turn is taken. -/
def enter (c : SignatureCache) (id : CallId) (request : RelayRequest) (app : Application) :
    SignatureCache :=
  let (c, cell) := c.cellFor (SignatureKey.ofRequest request app)
  let c := { c with calls := c.calls.insert id ⟨request, app, .waiting cell⟩ }
  match c.cells.find? cell with
  | some ⟨none, none, queue⟩ => c.setCell cell ⟨none, some id, queue⟩
  | some ⟨none, some turn, queue⟩ => c.setCell cell ⟨none, some turn, queue ++ [id]⟩
  | _ => c

def resume (c : SignatureCache) (id : CallId) : Step :=
  match c.calls.find? id with
  | some call =>
    match call.stage with
    | .waiting cell =>
      match c.cells.find? cell with
      | some ⟨some signed, _, _⟩ => ⟨(c.release id).countHit, .done (.ok signed), []⟩
      | some ⟨none, turn, _⟩ => if turn = some id then c.takeTurn id call cell else ⟨c, .wait, []⟩
      | none => ⟨c, .wait, []⟩
    | _ => ⟨c, .compute, []⟩
  | none => ⟨c, .wait, []⟩

def join (c : SignatureCache) (id : CallId) (request : RelayRequest) (app : Application) : Step :=
  (c.enter id request app).resume id

/-- A call for the signature of `request` starts. A stored signature made for other data is dropped. -/
def begin (c : SignatureCache) (id : CallId) (request : RelayRequest) (app : Application) : Step :=
  if c.config.enabled then
    let key := SignatureKey.ofRequest request app
    match c.entries.find? key with
    | some signed =>
      if signed.isFor request.header.sessionId request.supplier app.address then
        ⟨c.countHit, .done (.ok signed), []⟩
      else (c.evict key).join id request app
    | none => c.join id request app
  else ⟨{ c with calls := c.calls.insert id ⟨request, app, .direct⟩ }, .compute, []⟩

/-- The call's own computation has ended. Failures are not stored. -/
def finish (c : SignatureCache) (id : CallId) (result : Except SignerError SignedRelay) : Step :=
  match c.calls.find? id with
  | some call =>
    match call.stage with
    | .computing cell =>
      match result with
      | .ok signed =>
        let (c, woken) := (c.store call.key signed).fill cell signed
        ⟨(c.release id).countMiss, .done result, woken⟩
      | .error _ =>
        let (c, woken) := c.passTurn cell
        ⟨c.release id, .done result, woken⟩
    | .direct => ⟨c.release id, .done result, []⟩
    | .waiting _ => ⟨c, .wait, []⟩
  | none => ⟨c, .wait, []⟩

def cancel (c : SignatureCache) (id : CallId) : SignatureCache × List CallId :=
  match c.calls.find? id with
  | some call =>
    match call.stage.cell? with
    | some cell =>
      match c.cells.find? cell with
      | some k =>
        if k.turn = some id then
          let (c, woken) := c.passTurn cell
          (c.release id, woken)
        else
          ((c.setCell cell { k with queue := k.queue.filter (· ≠ id) }).release id, [])
      | none => (c.release id, [])
    | none => (c.release id, [])
  | none => (c, [])

def clear (c : SignatureCache) : SignatureCache := { c with entries := ∅, hits := 0, misses := 0 }

def sweep (c : SignatureCache) : SignatureCache :=
  { c with inflight := c.inflight.filter fun _ cell => ((c.cells.find? cell).bind Cell.value).isNone }

structure Stats where
  enabled : Bool
  inflight : Nat
  hits : Nat
  misses : Nat

def stats (c : SignatureCache) : Stats := ⟨c.config.enabled, c.inflight.size, c.hits, c.misses⟩

/-- The share of hits among all answers, as the bits of a double; zero when there were none. -/
def Stats.hitRateBits (s : Stats) : UInt64 :=
  if s.hits + s.misses = 0 then 0
  else (Float.ofNat s.hits / Float.ofNat (s.hits + s.misses)).toBits

end SignatureCache
end RelayGateway
