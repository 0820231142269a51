/-
Batches: tasks and the limits they are run under.

A batch without a worker or without time, or whose tasks cannot be told apart, is refused before
anything happens. Any other batch is run to its end by one of the possible schedules: the driver
moves as soon as it can, then the workers in their order, and the clock advances to the next moment
at which something can happen.

Main definitions:

* `Batch.fault?` — why a batch is refused, if it is;
* `Batch.final` — the pool when the driver has answered;
* `Batch.run` — what is said of each task.
-/
import SmokeTest.Error
import SmokeTest.Pool.State

namespace SmokeTest.Pool

variable {σ ω : Type}

/-- Tasks and the limits they are run under. -/
structure Batch (σ ω : Type) where
  tasks : List (Task σ ω)
  poolSize : Nat
  timeoutSeconds : Nat

/-! ### Schedules -/

namespace State

/-- Whether the worker can move before the clock advances. -/
def canMove (s : State σ ω) : Worker σ ω → Bool
  | .stopped | .died => false
  | .inside _ _ _ _ _ _ due => due ≤ s.clock
  | _ => true

/-- The next move of the driver, if it has one now. -/
def driverEvent? (deadline : Option Nat) (s : State σ ω) : Option Event :=
  match s.driver with
  | .collecting => some .poll
  | .waiting =>
    if !s.channel.isEmpty then some .receive
    else if s.workers.all Worker.isGone then some .disconnect
    else if s.isDue deadline then some .expire
    else none
  | .collected _ => some .cancel
  | .closing _ => some .answer
  | .answered _ => none

/-- The moments at which something happens by itself. -/
def moments (deadline : Option Nat) (s : State σ ω) : List Nat :=
  deadline.toList ++ s.workers.filterMap fun
    | .inside _ _ _ _ _ _ due => some due
    | _ => none

/-- The event that the schedule chooses; none once the driver has answered. -/
def scheduled? (deadline : Option Nat) (s : State σ ω) : Option Event :=
  if s.driver.isGone then none
  else
    match s.driverEvent? deadline with
    | some e => some e
    | none =>
      match s.workers.findIdx? s.canMove with
      | some w => some (.work w)
      | none => (s.moments deadline).min?.map fun t => .tick (t - s.clock)

/-- Follows the schedule for at most so many events. -/
def follow (deadline : Option Nat) : Nat → State σ ω → State σ ω
  | 0, s => s
  | fuel + 1, s =>
    match (s.scheduled? deadline).bind (s.next? deadline) with
    | some s => follow deadline fuel s
    | none => s

end State

/-! ### Batches -/

/-- Why ids cannot stand for tasks: the first of them that is empty or that has been seen before. -/
def idFault? (seen : List String) : List String → Option Error
  | [] => none
  | id :: rest =>
    if id.isEmpty then some .emptyId
    else if id ∈ seen then some (.duplicateId id)
    else idFault? (id :: seen) rest

/-- The seconds that the clock can count. -/
def clockSeconds : Nat := Nat.pow 2 63

/-- When the time of a batch is over. A deadline that the clock never shows is none. -/
def deadline? (timeoutSeconds : Nat) : Option Nat :=
  if timeoutSeconds < clockSeconds then some (timeoutSeconds * nanosPerSecond) else none

namespace Batch

/-- The ids of the tasks. -/
def ids (b : Batch σ ω) : List String := b.tasks.map Task.id

/-- Why the batch is refused, if it is. -/
def fault? (b : Batch σ ω) : Option Error :=
  if b.poolSize = 0 then some .noWorkers
  else if b.timeoutSeconds = 0 then some .noTime
  else idFault? [] b.ids

/-- When the time of the batch is over. -/
def deadline? (b : Batch σ ω) : Option Nat := Pool.deadline? b.timeoutSeconds

/-- The pool before the first event. -/
def start (b : Batch σ ω) (world : ω) : State σ ω :=
  .start b.tasks b.poolSize world

/-- Enough events for every schedule of the batch: a job is taken, looked at, begun, goes through
its steps and is reported, received and looked for; workers stop and the driver ends. -/
def events (b : Batch σ ω) : Nat :=
  24 * b.tasks.length + 2 * min b.poolSize b.tasks.length + 8

/-- The pool when the driver has answered. -/
def final (b : Batch σ ω) (world : ω) : State σ ω :=
  (b.start world).follow b.deadline? b.events

/-- What is said of each task in the state of the pool. -/
def results (b : Batch σ ω) (s : State σ ω) : List Outcome :=
  s.outcomes b.timeoutSeconds b.ids

/-- What is said of each task, in the order of the tasks. -/
def run (b : Batch σ ω) (world : ω) : Except Error (List Outcome) :=
  match b.fault? with
  | some fault => .error fault
  | none =>
    if b.tasks.isEmpty then .ok []
    else .ok (b.results (b.final world))

end Batch

end SmokeTest.Pool
