/-
A run of the program: from the words of its command line to its output and its exit code.

A command line that asks for help or the version is answered with nothing else. A run checks its
directory, its tag and its filter before it looks at the source, and it runs commands only if the
whole source has been read.

Main definitions:

* `Surroundings` — what the program finds when it is started;
* `Failure` — why a run ends before its report;
* `Beginning.ofWords` — what a command line comes to before any command is run;
* `Ending.ofPool` — the report of a batch that is over, and its exit code;
* `Ending.ofWords` — what a command line leads to.

Design notes: commands are run by an invoker in a world of its own, so that nothing here depends on
what a command is. What comes before the batch knows nothing of that world.
-/
import SmokeTest.Command
import SmokeTest.CommandLine.Usage
import SmokeTest.Source.Load

namespace SmokeTest.CommandLine

/-- What the program finds when it is started. -/
structure Surroundings where
  files : FileTree
  /-- Where the program is started. -/
  directory : Location
  environment : List (String × String) := []
  /-- The local time, as it is shown. -/
  now : String
  /-- Whether the output goes to a terminal. -/
  isTerminal : Bool := false
  deriving Inhabited

/-- Why a run ends before its report. -/
inductive Failure
  | usage (e : UsageError)
  /-- There is no such directory to run commands in. -/
  | noDirectory (path : String)
  /-- The tag or the filter cannot be used. -/
  | selection (e : Error)
  /-- The source cannot be used. -/
  | source (e : Error)
  /-- The batch is refused. -/
  | batch (e : Error)
  deriving DecidableEq, Repr

/-- How the run ends. -/
def Failure.exitCode : Failure → ExitCode
  | usage _ | noDirectory _ => .badUsage
  | selection _ => .badSelection
  | source .unreadable => .unreadable
  | source _ | batch _ => .badPlan

/-- What is said about the failure. -/
def Failure.message : Failure → String
  | usage e => e.message
  | noDirectory path => "Working directory does not exist: " ++ path
  | selection e | source e | batch e => e.message

/-- What a run of the program amounts to. -/
structure Ending where
  output : String
  exitCode : ExitCode
  failure : Option Failure := none
  deriving Inhabited

/-! ### Surroundings -/

namespace Surroundings

/-- What the names of added variables usually begin with. -/
def nameStart (s : Surroundings) : String :=
  match s.environment.lookup "ST_ENV_NAME_PREFIX" with
  | some start => if start.isAllBlank then defaultNameStart else start
  | none => defaultNameStart

/-- Whether a variable is set to anything but `0`; none if it is not set. -/
def wish? (s : Surroundings) (name : String) : Option Bool :=
  (s.environment.lookup name).map (· ≠ "0")

/-- Whether the report has colours unless the command line forbids them. -/
def hasColor (s : Surroundings) : Bool :=
  if s.wish? "CLICOLOR_FORCE" = some true then true
  else if (s.wish? "NO_COLOR").isSome then false
  else (s.wish? "CLICOLOR").getD true && s.isTerminal

end Surroundings

/-! ### Runs -/

namespace Arguments

/-- The options that the arguments give to the reader of the source. -/
def options (a : Arguments) (usualStart : String) : Except Error Options := do
  let o ← Options.ofTag a.tag
  let o := { o with names := { start := a.settings.nameStart.getD usualStart } }
  match a.filter with
  | none => return o
  | some text => return { o with filter := some (← Filter.parse text) }

/-- Where commands are run; none if it is no directory. -/
def place? (a : Arguments) (s : Surroundings) : Except Failure Location :=
  match a.settings.directory with
  | none => .ok s.directory
  | some path =>
    match s.files.locate? s.directory path with
    | some l => if s.files.isDirectory l then .ok l else .error (.noDirectory path)
    | none => .error (.noDirectory path)

/-- The batch of a run, unless something is wrong with what it was asked for. -/
def batch {ω : Type} (a : Arguments) (words : List String) (s : Surroundings)
    (invoke : Location → Invoker ω) : Except Failure (Pool.Batch Outcome ω) := do
  let place ← a.place? s
  let options ← (a.options s.nameStart).mapError .selection
  let invocation : Invocation := { configFile := a.source, commandLine := " ".intercalate words }
  let plan ← (Plan.load s.files s.directory a.source options invocation).mapError .source
  let c := plan.context
  let batch := Probe.batch (invoke place) plan.probes c.poolSize c.timeoutSeconds
  match batch.fault? with
  | some fault => throw (.batch fault)
  | none => return batch

/-- The report of a batch whose driver has answered. -/
def report {ω : Type} (a : Arguments) (s : Surroundings) (b : Pool.Batch Outcome ω)
    (pool : Pool.State Outcome ω) : String :=
  let report : Report := {
    summary := Summary.ofOutcomes (b.results pool) a.settings.top
    elapsed := pool.clock
    started := s.now }
  report.render (s.hasColor && !a.settings.noColor)

end Arguments

/-- What a command line comes to before any command is run. -/
inductive Beginning (ω : Type)
  /-- There is nothing to run. -/
  | ended (e : Ending)
  /-- The batch that was asked for. -/
  | batch (a : Arguments) (b : Pool.Batch Outcome ω)

/-- What a command line comes to before any command is run. -/
def Beginning.ofWords {ω : Type} (words : List String) (s : Surroundings)
    (invoke : Location → Invoker ω) : Beginning ω :=
  match Demand.ofWords words with
  | .ok .help => .ended { output := usageText s.nameStart, exitCode := .allPassed }
  | .ok .version => .ended { output := versionText, exitCode := .allPassed }
  | .error e =>
    .ended {
      output := usageText s.nameStart
      exitCode := .badUsage
      failure := some (.usage e) }
  | .ok (.run a) =>
    match a.batch words s invoke with
    | .ok b => .batch a b
    | .error f => .ended { output := bannerText, exitCode := f.exitCode, failure := some f }

namespace Ending

/-- What is shown of a batch whose driver has answered. -/
def ofPool {ω : Type} (a : Arguments) (s : Surroundings) (b : Pool.Batch Outcome ω)
    (pool : Pool.State Outcome ω) : Ending where
  output := bannerText ++ unlines [a.report s b pool]
  exitCode := if failedCount (b.results pool) = 0 then .allPassed else .someFailed

/-- What a command line leads to. -/
def ofWords {ω : Type} (words : List String) (s : Surroundings) (invoke : Location → Invoker ω)
    (world : ω) : Ending :=
  match Beginning.ofWords words s invoke with
  | .ended e => e
  | .batch a b => ofPool a s b (b.final world)

end Ending

end SmokeTest.CommandLine
