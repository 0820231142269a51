/-
Jobs: commands in the background.

Main definitions:

* `Run.jobNumber?` — the job that a text names;
* `Run.wait` — waits for jobs to end.
-/
import SmokeTest.Shell.Machine

namespace SmokeTest.Shell.Run

/-- The process of the job that a text names, by the number of its process or by its own. -/
def jobNumber? (s : String) : Run (Option Nat) := do
  let jobs := (← outside).jobs
  return match s.toList with
    | '%' :: '%' :: [] | '%' :: '+' :: [] | ['%'] => jobs.getLast?.map Job.process
    | '%' :: digits => (Text.readDigits? 10 digits).bind fun n => (jobs[n - 1]?).map Job.process
    | digits =>
      (Text.readDigits? 10 digits).bind fun n =>
        (jobs.find? fun j => processId + j.process == n).map Job.process

/-- Waits for jobs: the given ones, the next one to end, or all. -/
def wait (arguments : List String) : Run Nat := do
  match arguments with
  | [] =>
    awaitJobs
    return 0
  | "-n" :: _ =>
    let o ← outside
    let running := o.jobs.filter fun j => o.clock < j.finish
    match (running.mergeSort fun a b => a.finish ≤ b.finish).head? with
    | some j => return (← awaitJob j.process).getD 0
    | none => return 127
  | arguments =>
    let mut status := 0
    for a in arguments do
      match ← jobNumber? a with
      | some process => status := (← awaitJob process).getD 127
      | none =>
        if (Text.readDigits? 10 a.toList).isSome then
          complain s!"wait: pid {a} is not a child of this shell"
          status := 127
        else
          complain s!"wait: \x60{a}': not a pid or valid job spec"
          status := 1
    return status

end SmokeTest.Shell.Run
