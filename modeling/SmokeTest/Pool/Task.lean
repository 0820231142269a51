/-
Tasks: what a pool of workers runs.

A task is run in four steps. A step may fail with a text or panic; then the steps behind it are not
entered and the task is reported as faulty.

Main definitions:

* `Task` — an id, a state, and what each step does to that state and to the world;
* `Task.alone` — what a task reports when nothing else is running.

Design notes: a step replies all at once. When a worker is done with it, and so what the clock shows
by then, is for the pool to say; `Reply.took` is the time that it needs if nothing holds it up.
-/
import SmokeTest.Outcome

namespace SmokeTest.Pool

/-- The steps of a task. -/
inductive Step
  | prepare
  | execute
  | conclude
  | validate
  deriving DecidableEq, Repr, Inhabited

/-- All steps in their order. -/
def Step.all : List Step := [.prepare, .execute, .conclude, .validate]

/-- How a step ends. -/
inductive Ending
  | done
  | failed (text : String)
  /-- A panic, with its text if it has one. -/
  | panicked (text : Option String)
  deriving DecidableEq, Repr, Inhabited

/-- What is said of a step that did not end well. -/
def Ending.fault? : Ending → Option String
  | done => none
  | failed text => some text
  | panicked text => some (text.getD "unit panicked")

/-- What a step of a task does. -/
structure Reply (σ ω : Type) where
  ending : Ending := .done
  /-- The state of the task after the step. -/
  state : σ
  /-- The world after the step. -/
  world : ω
  /-- The nanoseconds that the step needs. -/
  took : Nat := 0

/-- A task with its own state `σ` in a world `ω` that it shares with other tasks. -/
structure Task (σ ω : Type) where
  id : String
  /-- The state before the first step. -/
  state : σ
  /-- Whether the worker that begins this task is lost with it. -/
  lost : Bool := false
  /-- Whether the worker is lost with this task when the steps are over, before it reports. -/
  lostBehind : Bool := false
  act : Step → σ → ω → Reply σ ω
  /-- What the task reports in the state after its last step. -/
  outcome : σ → Outcome

namespace Task

variable {σ ω : Type}

/-- What is reported of a task one of whose steps did not end well. -/
def faulty (t : Task σ ω) (text : String) (elapsed : Nat) : Outcome :=
  { id := t.id, verdict := .userError, elapsed, message := text }

/-- What the task reports when the steps are taken one after the other, and the world behind it. -/
def follow (t : Task σ ω) (elapsed : Nat) : List Step → σ → ω → Outcome × ω
  | [], state, world => (t.outcome state, world)
  | step :: rest, state, world =>
    let r := t.act step state world
    match r.ending.fault? with
    | some text => (t.faulty text (elapsed + r.took), r.world)
    | none => t.follow (elapsed + r.took) rest r.state r.world

/-- What the task reports when nothing else is running, and the world behind it. -/
def alone (t : Task σ ω) (world : ω) : Outcome × ω :=
  t.follow 0 Step.all t.state world

end Task

end SmokeTest.Pool
