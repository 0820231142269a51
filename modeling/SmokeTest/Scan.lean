/-
Scanning a text source: from its lines to the plan of a run.

Lines are read in order. Settings hold for the whole run, and the last one of a name counts; an
assignment to the tag of the run holds for the commands after it, until the next one; a marker that
selects the tag contributes the command that follows it.

Main definitions:

* `Scan` — what has been collected up to a line;
* `Scan.step` — what one line adds;
* `Plan.ofLines` — the plan of a text source.
-/
import SmokeTest.Plan
import SmokeTest.Selection
import SmokeTest.Text.Line
import SmokeTest.Text.Numeral

namespace SmokeTest

/-- What has been collected from the lines read so far. -/
structure Scan where
  poolSize : Nat
  timeoutSeconds : Nat
  /-- The value that is in force for the next command. -/
  value : Option String := none
  probes : List Probe := []
  deriving DecidableEq, Repr, Inhabited

namespace Scan

/-- What has been collected before the first line. -/
def start (o : Options) : Scan :=
  { poolSize := o.poolSize, timeoutSeconds := o.timeoutSeconds }

/-- The positive number, of at most 64 bits, that a setting carries. -/
def positive? (value : String) : Option Nat :=
  (Text.readDecimal? Text.wordMax (Text.trim value.toList)).filter (0 < ·)

/-- The effect of a setting; one that is not known has none. -/
def set (s : Scan) (name value : String) (line : Nat) : Except Error Scan :=
  let known := String.ofList (Text.upper name.toList)
  if known = "THREAD_POOL_SIZE" then
    match positive? value with
    | some n => .ok { s with poolSize := n }
    | none => .error (.badSetting name value line)
  else if known = "TIMEOUT_SECONDS" then
    match positive? value with
    | some n => .ok { s with timeoutSeconds := n }
    | none => .error (.badSetting name value line)
  else .ok s

/-- The variables that the command on a line is given. -/
def environment (o : Options) (number : Nat) (value : Option String) : List (String × String) :=
  [(o.names.tag, o.tag.text), (o.names.os, osName), (o.names.line, Text.decimal number)] ++
    match value with
    | some v => [(o.names.value, v)]
    | none => []

/-- Adds the command of a selected line, unless there is none or the filter refuses it. -/
def add (s : Scan) (o : Options) (line : Line) : Except Error Scan :=
  let id := Text.decimal line.number
  let command := (Directive.commandOf line.text).trimBlank
  if command.isEmpty || !o.accepts id command then .ok s
  else
    match Probe.ofCommand id command with
    | .error fault => .error fault
    | .ok p =>
      let probe := p.withOverrides (environment o line.number s.value)
      .ok { s with probes := s.probes ++ [probe] }

/-- What one line adds. -/
def step (o : Options) (s : Scan) (line : Line) : Except Error Scan :=
  match Directive.parse line.text with
  | none => .ok s
  | some (.setting name value) => s.set name value line.number
  | some (.assignment tag value) =>
    .ok { s with value := (Directive.assignment tag value).carry o.tag s.value }
  | some d => if d.selects o.tag then s.add o line else .ok s

/-- Reads lines, one after the other. -/
def steps (o : Options) (s : Scan) : List Line → Except Error Scan
  | [] => .ok s
  | line :: rest =>
    match step o s line with
    | .ok s => steps o s rest
    | .error e => .error e

/-- The plan that has been collected. -/
def plan (o : Options) (s : Scan) : Plan where
  context :=
    { tag := o.tag, poolSize := s.poolSize, timeoutSeconds := s.timeoutSeconds, value := s.value }
  probes := s.probes

end Scan

/-- The plan of a text source. -/
def Plan.ofLines (o : Options) (lines : List Line) : Except Error Plan :=
  match Scan.steps o (Scan.start o) lines with
  | .ok s => .ok (s.plan o)
  | .error e => .error e

end SmokeTest
