/-
The figures of a finished batch.

Whatever did not pass counts as a failure.

Main definitions:

* `passedCount`, `failedCount`, `failures`, `exitStatus` — what a list of outcomes amounts to;
* `slowest k` — the passes that took longest, at most `k` of them, the slowest first;
* `Summary` — the figures of one batch, worked out once.
-/
import SmokeTest.Outcome

namespace SmokeTest

/-- The status of a program whose probes all passed. -/
def statusPassed : Nat := 0

/-- The status of a program one of whose probes did not pass. -/
def statusFailed : Nat := 5

/-- The outcomes that are no passes, in the order of the batch. -/
def failures (outcomes : List Outcome) : List Outcome :=
  outcomes.filter fun o => !o.passed

/-- The number of outcomes that are no passes. -/
def failedCount (outcomes : List Outcome) : Nat :=
  outcomes.countP fun o => !o.passed

/-- The number of passes. -/
def passedCount (outcomes : List Outcome) : Nat :=
  outcomes.length - failedCount outcomes

/-- The passes that took longest, the slowest first; equal times keep the order of the batch. -/
def slowest (outcomes : List Outcome) (k : Nat) : List Outcome :=
  ((outcomes.filter Outcome.passed).mergeSort fun a b => b.elapsed ≤ a.elapsed).take k

/-- The status of a program with these outcomes. -/
def exitStatus (outcomes : List Outcome) : Nat :=
  if failedCount outcomes = 0 then statusPassed else statusFailed

/-- The figures of one batch. -/
structure Summary where
  outcomes : List Outcome
  slowest : List Outcome
  failedCount : Nat
  deriving DecidableEq, Repr, Inhabited

namespace Summary

/-- The figures of a batch, with the `top` slowest passes. -/
def ofOutcomes (outcomes : List Outcome) (top : Nat) : Summary where
  outcomes := outcomes
  slowest := SmokeTest.slowest outcomes top
  failedCount := SmokeTest.failedCount outcomes

/-- The size of the batch. -/
def total (s : Summary) : Nat := s.outcomes.length

/-- The number of passes. -/
def passedCount (s : Summary) : Nat := s.total - s.failedCount

/-- The outcomes that are no passes, in the order of the batch. -/
def failures (s : Summary) : List Outcome := SmokeTest.failures s.outcomes

/-- The status of a program with this batch. -/
def exitStatus (s : Summary) : Nat :=
  if s.failedCount = 0 then statusPassed else statusFailed

end Summary

end SmokeTest
