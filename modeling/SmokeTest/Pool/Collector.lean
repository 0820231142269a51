/-
Collecting what workers report, and settling what is said of each task.

Main definitions:

* `Collector` — a slot for each task and the number of slots that are empty;
* `settle` — what is said of a task, given the slot that belongs to it.

Design notes: a report that names another id than that of its task is not believed, whatever it
says, so no task is ever given the report of another one.
-/
import SmokeTest.Outcome
import SmokeTest.Text.Numeral

namespace SmokeTest.Pool

/-- What has been received so far. -/
structure Collector where
  /-- The last report received for each task. -/
  slots : List (Option Outcome)
  /-- The number of empty slots. -/
  outstanding : Nat
  deriving DecidableEq, Repr, Inhabited

namespace Collector

/-- Nothing received for any of `n` tasks. -/
def empty (n : Nat) : Collector := ⟨List.replicate n none, n⟩

/-- Receives a report for the task with the given index; there may be no such task. -/
def receive (c : Collector) (index : Nat) (o : Outcome) : Collector :=
  match c.slots[index]? with
  | none => c
  | some none => ⟨c.slots.set index (some o), c.outstanding - 1⟩
  | some (some _) => ⟨c.slots.set index (some o), c.outstanding⟩

/-- Receives reports one after the other. -/
def receiveAll (c : Collector) (reports : List (Nat × Outcome)) : Collector :=
  reports.foldl (fun c (index, o) => c.receive index o) c

end Collector

/-- What is said of a task under whose index another id was reported. -/
def mismatched (id : String) (reported : Outcome) : Outcome where
  id := id
  verdict := .execError
  elapsed := reported.elapsed
  message :=
    s!"EXEC_ERROR: id [{id}], internal consistency error, result reported for [{reported.id}]"

/-- What is said of a task that was still outstanding at the deadline. -/
def overdue (timeoutSeconds : Nat) (id : String) : Outcome where
  id := id
  verdict := .execError
  elapsed := 0
  message :=
    let seconds := Text.decimal timeoutSeconds
    s!"EXEC_ERROR: id [{id}], cancelled after batch timeout of {seconds} second(s)"

/-- What is said of a task that nobody was left to run or report. -/
def abandoned (id : String) : Outcome where
  id := id
  verdict := .execError
  elapsed := 0
  message :=
    s!"EXEC_ERROR: id [{id}], engine error, worker pool stopped before the unit completed"

/-- What is said of the task with the given id. -/
def settle (timeoutSeconds : Nat) (timedOut : Bool) (id : String) : Option Outcome → Outcome
  | some o => if o.id = id then o else mismatched id o
  | none => if timedOut then overdue timeoutSeconds id else abandoned id

/-- What is said of each task, in the order of the tasks. -/
def settleAll (timeoutSeconds : Nat) (timedOut : Bool) (ids : List String)
    (slots : List (Option Outcome)) : List Outcome :=
  ids.zipWith (settle timeoutSeconds timedOut) slots

end SmokeTest.Pool
