/-
Outcomes: what is reported of each member of a batch.

Main definitions:

* `Verdict` — how a member came off;
* `Outcome` — a verdict with the id it is about, the time it took and a message.

Design notes: times are counted in nanoseconds and never wrap.
-/

namespace SmokeTest

/-- How a member of a batch came off. -/
inductive Verdict
  /-- It judged itself to be in order. -/
  | pass
  /-- It judged itself not to be in order. -/
  | fail
  /-- It could not be run, did not end in time, or was lost. -/
  | execError
  /-- One of its steps went wrong. -/
  | userError
  deriving DecidableEq, Repr, Inhabited

namespace Verdict

/-- The word that is shown for a verdict. -/
def label : Verdict → String
  | pass => "PASS"
  | fail => "FAIL"
  | execError => "EXEC_ERROR"
  | userError => "USER_ERROR"

/-- All verdicts. -/
def all : List Verdict := [pass, fail, execError, userError]

/-- The verdict with the given word. -/
def ofLabel? (label : String) : Option Verdict :=
  all.find? fun v => v.label = label

end Verdict

/-- The nanoseconds of a second. -/
def nanosPerSecond : Nat := 1000000000

/-- The nanoseconds of a millisecond. -/
def nanosPerMilli : Nat := 1000000

/-- What is reported of a member of a batch. -/
@[ext]
structure Outcome where
  id : String
  verdict : Verdict
  /-- The time it took, in nanoseconds. -/
  elapsed : Nat
  message : String
  deriving DecidableEq, Repr, Inhabited

namespace Outcome

/-- Whether the member passed. -/
def passed (o : Outcome) : Bool := o.verdict = .pass

/-- The time it took in whole milliseconds. -/
def millis (o : Outcome) : Nat := o.elapsed / nanosPerMilli

end Outcome

end SmokeTest
