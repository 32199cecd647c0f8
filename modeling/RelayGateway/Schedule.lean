/-! # A clock and the processes that run on it

Processes run one at a time, each until it has to wait. Those that can go on stand in a queue and are
taken in order. When none can, the clock moves to the next moment that one of them waits for; the
processes that wait for that moment are queued in the order in which they began to wait. A process may
also be woken by another.

What a process does when it runs is given from outside, so the same clock serves every kind of
process. The number of turns is bounded by fuel.
-/
namespace RelayGateway

/-- An answer that is decided on and arrives at a certain time, or never. -/
structure Pending (α : Type) where
  due : Option Nat
  answer : α

def Pending.ready? {α : Type} (p : Pending α) (now : Nat) : Option α :=
  match p.due with
  | some t => if t ≤ now then some p.answer else none
  | none => none

def Pending.after {α : Type} (now delay : Nat) (a : α) : Pending α := ⟨some (now + delay), a⟩

abbrev ProcessId := Nat

/-- What a process has done when it stops running: the shared state it leaves, itself if it waits on
(with the times it waits for), and the processes it has woken. -/
structure Turn (σ τ : Type) where
  shared : σ
  process : Option τ
  alarms : List Nat
  woken : List ProcessId

structure Waiting (τ : Type) where
  process : τ
  alarms : List Nat
  /-- A number that grows with every new wait. -/
  since : Nat

structure Schedule (σ τ : Type) where
  now : Nat
  shared : σ
  processes : List (ProcessId × Waiting τ)
  queue : List ProcessId
  nextId : ProcessId
  nextWait : Nat

abbrev Behaviour (σ τ : Type) := Nat → ProcessId → τ → σ → Turn σ τ

namespace Schedule
variable {σ τ : Type}

def start (shared : σ) : Schedule σ τ := ⟨0, shared, [], [], 0, 0⟩

def isRunning (s : Schedule σ τ) (id : ProcessId) : Bool := s.processes.any fun p => p.1 = id

def process? (s : Schedule σ τ) (id : ProcessId) : Option τ :=
  (s.processes.lookup id).map Waiting.process

def wake (s : Schedule σ τ) (ids : List ProcessId) : Schedule σ τ :=
  { s with queue := ids.foldl (fun q id => if q.contains id then q else q ++ [id]) s.queue }

def spawn (s : Schedule σ τ) (process : τ) : Schedule σ τ × ProcessId :=
  ({ s with processes := s.processes ++ [(s.nextId, ⟨process, [], s.nextWait⟩)],
            queue := s.queue ++ [s.nextId], nextId := s.nextId + 1, nextWait := s.nextWait + 1 },
   s.nextId)

def remove (s : Schedule σ τ) (id : ProcessId) : Schedule σ τ :=
  { s with processes := s.processes.filter (fun p => p.1 ≠ id), queue := s.queue.filter (· ≠ id) }

def afterTurn (s : Schedule σ τ) (id : ProcessId) (t : Turn σ τ) : Schedule σ τ :=
  let s := { s with shared := t.shared }
  match t.process with
  | none => (s.remove id).wake t.woken
  | some p =>
    let w : Waiting τ := ⟨p, t.alarms, s.nextWait⟩
    let processes := s.processes.map fun e => if e.1 = id then (id, w) else e
    { s with processes, nextWait := s.nextWait + 1 }.wake t.woken

def step (run : Behaviour σ τ) (s : Schedule σ τ) : Schedule σ τ :=
  match s.queue with
  | [] => s
  | id :: queue =>
    let s := { s with queue }
    match s.processes.lookup id with
    | none => s
    | some w => s.afterTurn id (run s.now id w.process s.shared)

def settle (run : Behaviour σ τ) : Nat → Schedule σ τ → Schedule σ τ
  | 0, s => s
  | fuel + 1, s => if s.queue.isEmpty then s else settle run fuel (s.step run)

def alarms (s : Schedule σ τ) : List Nat :=
  (s.processes.flatMap fun p => p.2.alarms).filter (s.now < ·)

def nextAlarm? (s : Schedule σ τ) : Option Nat := s.alarms.min?

def ring (s : Schedule σ τ) (t : Nat) : Schedule σ τ :=
  let due := s.processes.filter fun p => p.2.alarms.contains t
  let due := due.mergeSort fun a b => a.2.since ≤ b.2.since
  { s with now := t }.wake (due.map Prod.fst)

/-- Runs on until the clock has reached `t` and nothing can run any more. -/
def runUntil (run : Behaviour σ τ) (t : Nat) : Nat → Schedule σ τ → Schedule σ τ
  | 0, s => s
  | fuel + 1, s =>
    if s.queue.isEmpty then
      match s.nextAlarm? with
      | some a => if a ≤ t then runUntil run t fuel (s.ring a) else { s with now := max s.now t }
      | none => { s with now := max s.now t }
    else runUntil run t fuel (s.step run)

/-- Runs on until none of the processes `ids` is left, or nothing can ever run again. -/
def await (run : Behaviour σ τ) (ids : List ProcessId) : Nat → Schedule σ τ → Schedule σ τ
  | 0, s => s
  | fuel + 1, s =>
    if ids.any s.isRunning then
      if s.queue.isEmpty then
        match s.nextAlarm? with
        | some a => await run ids fuel (s.ring a)
        | none => s
      else await run ids fuel (s.step run)
    else s

end Schedule
end RelayGateway
