/-
No task passes without having been run.

* `Earned` — what has happened to a task that may rightly be said to have passed;
* `earned_of_pass` — a pass is only ever said of such a task, whatever the order of the events, and
  the status of a batch is the one of success only if every task earned its pass.

Design notes: of all that is said when the driver answers, only the report of the task itself can be
a pass; and of all that a task can report, only what it says after its last step.
-/
import SmokeTest.Proofs.Pool.Outcomes
import SmokeTest.Summary

namespace SmokeTest.Pool

variable {σ ω : Type}

/-- Nobody but one worker takes a job that is delivered. -/
theorem Delivered.takers {t : Task σ ω} {log : List Note} {index : Nat} {o : Outcome}
    (h : Delivered t log index o) : ∃ w, takers log index = [w] := by
  obtain ⟨w, notes, report, story⟩ := h
  refine ⟨w, ?_⟩
  rw [takers_eq_history, story, List.cons_append, List.filterMap_cons, List.filterMap_append,
    report.way.filterMap (fun _ => rfl) (fun _ _ => rfl)]
  simp

/-! ### Passes -/

/-- One worker took the task, which then entered its four steps in their order, once each, and left
each of them well; and the outcome is what it says for itself after that, namely that it passed,
under its own id. -/
structure Earned (t : Task σ ω) (log : List Note) (index : Nat) (r : Outcome) : Prop where
  taken : ∃ w, takers log index = [w]
  entered : stepsEntered log index = Step.all
  left : stepsLeft log index = Step.all.map fun step => (step, .done)
  said : ∃ state, t.Passes Step.all t.state state ∧ r = t.outcome state
  verdict : r.verdict = .pass
  id : r.id = t.id

/-- A pass that was delivered was earned. -/
theorem Delivered.earned {t : Task σ ω} {log : List Note} {index : Nat} {o : Outcome}
    (h : Delivered t log index o) (pass : o.verdict = .pass) (id : o.id = t.id) :
    Earned t log index o := by
  have taken := h.takers
  obtain ⟨w, notes, report, story⟩ := h
  obtain ⟨rfl, said⟩ := report.of_pass pass
  refine ⟨taken, ?_, ?_, said, pass, id⟩
  · rw [stepsEntered_eq_history, story]
    simp [Task.passage, Step.all]
  · rw [stepsLeft_eq_history, story]
    simp [Task.passage, Step.all]

namespace Batch

variable {b : Batch σ ω} {deadline : Option Nat} {world : ω} {events : List Event} {s : State σ ω}

/-- Of what is said of a task only its own report can be a pass. -/
theorem Run.earned (run : b.Run deadline world events s) {i : Nat} {t : Task σ ω} {r : Outcome}
    (get : b.tasks[i]? = some t) (said : (b.results s)[i]? = some r) (pass : r.verdict = .pass) :
    Earned t s.log i r := by
  have settled := run.getElem?_results get
  rw [said, Option.some.injEq] at settled
  rcases (State.ledger_of_run run.reached).delivered get with nothing | ⟨o, delivered⟩
  · -- what the driver says by itself is never a pass
    rw [nothing, List.getLast?_nil, settle] at settled
    cases h : s.driver.timedOut <;> rw [h] at settled <;> rw [settled] at pass <;> cases pass
  · rw [delivered.reportsReceived, List.getLast?_singleton, settle] at settled
    by_cases names : o.id = t.id
    · rw [if_pos names] at settled
      subst settled
      exact delivered.earned pass names
    · rw [if_neg names] at settled
      rw [settled] at pass
      cases pass

/-- The status is the one of success exactly if every outcome is a pass. -/
theorem exitStatus_eq_zero_iff {outcomes : List Outcome} :
    exitStatus outcomes = 0 ↔ ∀ r ∈ outcomes, r.verdict = .pass := by
  rw [exitStatus]
  by_cases h : failedCount outcomes = 0
  · rw [if_pos h, failedCount, List.countP_eq_zero] at *
    simpa [statusPassed, Outcome.passed] using h
  · rw [if_neg h]
    rw [failedCount, List.countP_eq_zero] at h
    simpa [statusFailed, Outcome.passed] using h

/-- **No pass that was not earned.** In whatever state the driver answers: when a result of an
accepted batch is a pass, the task in its place was taken by one worker and went well through all
its steps, and the result is what it said for itself. If the status of the results is that of
success, this holds of every task. -/
theorem earned_of_pass (run : b.Run deadline world events s) :
    (∀ i r, (b.results s)[i]? = some r → r.verdict = .pass →
      ∃ t, b.tasks[i]? = some t ∧ Earned t s.log i r) ∧
    (exitStatus (b.results s) = 0 → ∀ i t, b.tasks[i]? = some t →
      ∃ r, (b.results s)[i]? = some r ∧ Earned t s.log i r) := by
  constructor
  · intro i r said pass
    have lt : i < b.tasks.length :=
      run.length_results ▸ (List.getElem?_eq_some_iff.mp said).1
    have get : b.tasks[i]? = some b.tasks[i] := List.getElem?_eq_getElem lt
    exact ⟨b.tasks[i], get, run.earned get said pass⟩
  · intro status i t get
    have said := run.getElem?_results get
    have pass := exitStatus_eq_zero_iff.mp status _ (List.mem_of_getElem? said)
    exact ⟨_, said, run.earned get said pass⟩

/-- Two workers for two tasks. -/
def evenBatch : Batch Unit Unit where
  tasks := [passingTask "a" "a" false, passingTask "b" "b" false]
  poolSize := 2
  timeoutSeconds := 60

/-- The workers take turns until both have reported. -/
def evenEvents : List Event :=
  (List.replicate 13 [Event.work 0, .work 1]).flatten ++
    [.poll, .receive, .poll, .receive, .poll, .cancel, .answer]

theorem earned_in_evenBatch :
    ∃ s, evenBatch.Run evenBatch.deadline? () evenEvents s ∧ exitStatus (evenBatch.results s) = 0 ∧
      (∃ t, evenBatch.tasks[0]? = some t ∧ Earned t s.log 0 ⟨"a", .pass, 7, "done"⟩) ∧
      ∃ r, (evenBatch.results s)[1]? = some r ∧ Earned (passingTask "b" "b" false) s.log 1 r := by
  obtain ⟨s, run, first, status⟩ :
      ∃ s, evenBatch.Run evenBatch.deadline? () evenEvents s ∧
        (evenBatch.results s)[0]? = some ⟨"a", .pass, 7, "done"⟩ ∧
        exitStatus (evenBatch.results s) = 0 :=
    ⟨_, ⟨rfl, rfl⟩, rfl, rfl⟩
  obtain ⟨passes, everyone⟩ := earned_of_pass run
  exact ⟨s, run, status, passes 0 _ first rfl, everyone status 1 _ rfl⟩

end Batch

end SmokeTest.Pool
