/-
A pool of workers as a system that moves in steps.

Workers take jobs from one queue and put what they report into one channel. The driver waits for the
reports until it has all of them, the deadline is past, or no worker is left; then it cancels the
pool and answers. Whoever can move may move next, and the clock may advance between any two moves.

Main definitions:

* `State` — the queue, the workers, the channel, the driver and the clock;
* `State.next? deadline event` — the state after an event; none if it cannot happen;
* `State.after? deadline events` — the state after a list of events.

Design notes: looking at the cancelled flag and starting a job are separate moves, and so are
looking at the clock and receiving a report. The log is kept to say what happened; nothing depends
on it.
-/
import SmokeTest.Pool.Collector
import SmokeTest.Pool.Task

namespace SmokeTest.Pool

variable {σ ω : Type}

/-- A task with its place in the batch. -/
structure Job (σ ω : Type) where
  index : Nat
  task : Task σ ω

/-- What a worker is doing. -/
inductive Worker (σ ω : Type)
  | idle
  /-- Has taken a job, and has not yet looked at the cancelled flag. -/
  | holding (job : Job σ ω)
  /-- Has seen that the pool is not cancelled. -/
  | cleared (job : Job σ ω)
  /-- Is about to enter the first of the steps that are left. -/
  | ready (job : Job σ ω) (started : Nat) (left : List Step) (state : σ)
  /-- Has entered a step, which is due to end at a time. -/
  | inside (job : Job σ ω) (started : Nat) (step : Step) (left : List Step) (ending : Ending)
      (state : σ) (due : Nat)
  /-- Has something to report. -/
  | reporting (job : Job σ ω) (outcome : Outcome)
  | stopped
  | died

namespace Worker

/-- The job of a worker, if it has one. -/
def job? : Worker σ ω → Option (Job σ ω)
  | holding j | cleared j | ready j .. | inside j .. | reporting j _ => some j
  | idle | stopped | died => none

/-- Whether the worker will never move again. -/
def isGone : Worker σ ω → Bool
  | stopped | died => true
  | _ => false

end Worker

/-- What the driver is doing. -/
inductive Driver
  /-- Is about to see whether it has to wait. -/
  | collecting
  /-- Is waiting for a report. -/
  | waiting
  /-- Has stopped waiting, because the deadline is past or for another reason. -/
  | collected (timedOut : Bool)
  /-- Has cancelled the pool. -/
  | closing (timedOut : Bool)
  /-- Has answered and is gone. -/
  | answered (timedOut : Bool)
  deriving DecidableEq, Repr, Inhabited

namespace Driver

/-- Whether nobody is left to receive reports. -/
def isGone : Driver → Bool
  | answered _ => true
  | _ => false

/-- Whether the driver stopped waiting because the deadline was past. -/
def timedOut : Driver → Bool
  | collected b | closing b | answered b => b
  | collecting | waiting => false

end Driver

/-- What is noted about a run, by the index of the job. -/
inductive Note
  | taken (worker index : Nat)
  | entered (index : Nat) (step : Step)
  | left (index : Nat) (step : Step) (ending : Ending)
  | sent (index : Nat) (outcome : Outcome)
  | received (index : Nat) (outcome : Outcome)
  /-- A job that no worker has any longer and nobody has reported. -/
  | dropped (index : Nat)
  | cancelled
  deriving DecidableEq, Repr, Inhabited

/-- A pool at one moment. -/
structure State (σ ω : Type) where
  queue : List (Job σ ω)
  workers : List (Worker σ ω)
  /-- The reports that have not been received, the oldest first. -/
  channel : List (Nat × Outcome) := []
  collector : Collector
  driver : Driver := .collecting
  cancelled : Bool := false
  /-- Nanoseconds since the batch began. -/
  clock : Nat := 0
  world : ω
  /-- What happened, the latest first. -/
  log : List Note := []

/-- What can happen in a pool. -/
inductive Event
  /-- The clock advances. -/
  | tick (nanos : Nat)
  /-- A worker makes its next move. -/
  | work (worker : Nat)
  /-- The driver looks at the number of outstanding reports and at the clock. -/
  | poll
  /-- The driver receives the oldest report. -/
  | receive
  /-- The driver stops waiting because the deadline is reached. -/
  | expire
  /-- The driver stops waiting because no worker is left. -/
  | disconnect
  /-- The driver cancels the pool. -/
  | cancel
  /-- The driver answers. -/
  | answer
  deriving DecidableEq, Repr, Inhabited

namespace State

/-- The state in which a worker has moved on. -/
def setWorker (s : State σ ω) (worker : Nat) (phase : Worker σ ω) : State σ ω :=
  { s with workers := s.workers.set worker phase }

/-- The state in which something more is noted. -/
def note (s : State σ ω) (n : Note) : State σ ω :=
  { s with log := n :: s.log }

/-- The next move of a worker in the given phase. -/
def move? (s : State σ ω) (worker : Nat) : Worker σ ω → Option (State σ ω)
  | .idle =>
    match s.queue with
    | [] => some (s.setWorker worker .stopped)
    | j :: rest =>
      some (({ s with queue := rest }.setWorker worker (.holding j)).note (.taken worker j.index))
  | .holding j =>
    if s.cancelled then some ((s.setWorker worker .stopped).note (.dropped j.index))
    else some (s.setWorker worker (.cleared j))
  | .cleared j =>
    if j.task.lost then some ((s.setWorker worker .died).note (.dropped j.index))
    else some (s.setWorker worker (.ready j s.clock Step.all j.task.state))
  | .ready j _ [] state => some (s.setWorker worker (.reporting j (j.task.outcome state)))
  | .ready j started (step :: left) state =>
    let r := j.task.act step state s.world
    let phase := .inside j started step left r.ending r.state (s.clock + r.took)
    some (({ s with world := r.world }.setWorker worker phase).note (.entered j.index step))
  | .inside j started step left ending state _ =>
    let phase := match ending.fault? with
      | some text => .reporting j (j.task.faulty text (s.clock - started))
      | none => .ready j started left state
    some ((s.setWorker worker phase).note (.left j.index step ending))
  | .reporting j o =>
    if j.task.lostBehind then some ((s.setWorker worker .died).note (.dropped j.index))
    else if s.driver.isGone then some ((s.setWorker worker .stopped).note (.dropped j.index))
    else
      let s := { s with channel := s.channel ++ [(j.index, o)] }
      some ((s.setWorker worker .idle).note (.sent j.index o))
  | .stopped | .died => none

/-- Whether the clock is past the deadline. -/
def isLate (deadline : Option Nat) (s : State σ ω) : Bool :=
  deadline.any (· < s.clock)

/-- Whether the clock has reached the deadline. -/
def isDue (deadline : Option Nat) (s : State σ ω) : Bool :=
  deadline.any (· ≤ s.clock)

/-- The state after an event; none if the event cannot happen. -/
def next? (deadline : Option Nat) (s : State σ ω) : Event → Option (State σ ω)
  | .tick nanos => some { s with clock := s.clock + nanos }
  | .work worker => s.workers[worker]?.bind (s.move? worker)
  | .poll =>
    if s.driver = .collecting then
      if s.collector.outstanding = 0 then some { s with driver := .collected false }
      else if s.isLate deadline then some { s with driver := .collected true }
      else some { s with driver := .waiting }
    else none
  | .receive =>
    match s.driver, s.channel with
    | .waiting, (index, o) :: rest =>
      let collector := s.collector.receive index o
      some ({ s with channel := rest, collector, driver := .collecting }.note (.received index o))
    | _, _ => none
  | .expire =>
    if s.driver = .waiting ∧ s.channel.isEmpty ∧ s.isDue deadline then
      some { s with driver := .collected true }
    else none
  | .disconnect =>
    if s.driver = .waiting ∧ s.channel.isEmpty ∧ s.workers.all Worker.isGone then
      some { s with driver := .collected false }
    else none
  | .cancel =>
    match s.driver with
    | .collected timedOut =>
      some ({ s with driver := .closing timedOut, cancelled := true }.note .cancelled)
    | _ => none
  | .answer =>
    match s.driver with
    | .closing timedOut => some { s with driver := .answered timedOut }
    | _ => none

/-- The state after the events, if each of them can happen in its turn. -/
def after? (deadline : Option Nat) : List Event → State σ ω → Option (State σ ω)
  | [], s => some s
  | e :: rest, s => (s.next? deadline e).bind (after? deadline rest)

/-- The jobs of the tasks, in their order. -/
def jobs (tasks : List (Task σ ω)) : List (Job σ ω) :=
  tasks.zipIdx.map fun (task, index) => { index, task }

/-- The state in which nothing has happened yet. -/
def start (tasks : List (Task σ ω)) (poolSize : Nat) (world : ω) : State σ ω where
  queue := jobs tasks
  workers := List.replicate (min poolSize tasks.length) .idle
  collector := .empty tasks.length
  world := world

/-- What is said of the tasks with the given ids once the driver has stopped waiting. -/
def outcomes (s : State σ ω) (timeoutSeconds : Nat) (ids : List String) : List Outcome :=
  settleAll timeoutSeconds s.driver.timedOut ids s.collector.slots

end State

/-! ### What the log says -/

/-- The workers that took a job, in their order. -/
def takers (log : List Note) (index : Nat) : List Nat :=
  log.reverse.filterMap fun
    | .taken worker i => if i = index then some worker else none
    | _ => none

/-- The steps that a job has entered, in their order. -/
def stepsEntered (log : List Note) (index : Nat) : List Step :=
  log.reverse.filterMap fun
    | .entered i step => if i = index then some step else none
    | _ => none

/-- The steps that a job has left and how they ended, in their order. -/
def stepsLeft (log : List Note) (index : Nat) : List (Step × Ending) :=
  log.reverse.filterMap fun
    | .left i step ending => if i = index then some (step, ending) else none
    | _ => none

/-- The reports for a job that the driver received, in their order. -/
def reportsReceived (log : List Note) (index : Nat) : List Outcome :=
  log.reverse.filterMap fun
    | .received i o => if i = index then some o else none
    | _ => none

end SmokeTest.Pool
