/-
Probes as tasks: running a command through an invoker.

Main definitions:

* `Invoker` — runs a command with added environment variables in a world;
* `Probe.task` — the task that runs the command of a probe in its second step;
* `Probe.batch` — the batch of some probes that share one invoker.
-/
import SmokeTest.Pool.Batch
import SmokeTest.Probe

namespace SmokeTest

/-- What a command leaves behind when it ends. -/
structure Completion where
  /-- None if the command was ended by a signal. -/
  exitCode : Option Int := none
  stdout : String := ""
  stderr : String := ""
  deriving DecidableEq, Repr, Inhabited

/-- Whether the command ended as it should. -/
def Completion.succeeded (c : Completion) : Bool := c.exitCode = some 0

/-- What comes of running a command, or the text that says why it could not be run. -/
structure CommandRun (ω : Type) where
  result : Except String Completion
  /-- The world afterwards. -/
  world : ω
  /-- The nanoseconds it took. -/
  took : Nat := 0

/-- Runs a command with added environment variables in a world. -/
abbrev Invoker (ω : Type) := String → Overrides → ω → CommandRun ω

namespace Probe

/-- The decimal text of an exit code, or a word for none. -/
def exitText : Option Int → String
  | none => "none"
  | some (.ofNat n) => Text.decimal n
  | some (.negSucc n) => "-" ++ Text.decimal (n + 1)

/-- What messages about a probe begin with. -/
def details (p : Probe) (verdict : Verdict) (exitCode : Option Int) (elapsed : Nat) : String :=
  let ms := Text.decimal (elapsed / nanosPerMilli)
  s!"{verdict.label}: {p.summary}, exit [{exitText exitCode}], elapsed [{ms} ms]"

/-- The outcome of a probe whose command was run, or could not be run. -/
def outcome (p : Probe) (elapsed : Nat) : Except String Completion → Outcome
  | .ok c =>
    let verdict := if c.succeeded then .pass else .fail
    let details := p.details verdict c.exitCode elapsed
    { id := p.id, verdict, elapsed
      message := s!"{details}, stdout [{c.stdout}], stderr [{c.stderr}]" }
  | .error text =>
    { id := p.id, verdict := .execError, elapsed
      message := s!"{p.details .execError none elapsed}, ERROR: {text}" }

/-- What a probe has to report before its command is run. -/
def unrun (p : Probe) : Outcome :=
  { id := p.id, verdict := .fail, elapsed := 0, message := "" }

/-- The task of a probe; its state is what it has to report. -/
def task {ω : Type} (invoke : Invoker ω) (p : Probe) : Pool.Task Outcome ω where
  id := p.id
  state := p.unrun
  act
    | .execute, _, world =>
      let i := invoke p.command p.overrides world
      { state := p.outcome i.took i.result, world := i.world, took := i.took }
    | _, state, world => { state, world }
  outcome := fun report => report

/-- The batch of some probes. -/
def batch {ω : Type} (invoke : Invoker ω) (probes : List Probe) (poolSize timeoutSeconds : Nat) :
    Pool.Batch Outcome ω :=
  { tasks := probes.map (task invoke), poolSize, timeoutSeconds }

end Probe

end SmokeTest
