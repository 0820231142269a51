/-
What a batch says of its tasks, whatever the order of the events.

* `ExecError` — the outcome of a task that could not be run to its end;
* `Believed` — what is said of a task when a report was received for it;
* `Delivered` — a worker took the job of a task, and what came of it reached the driver;
* `Accounted` — what may be said of a task when the driver answers, with the reason for it;
* `accounted_of_run` — every task is accounted for, under its own id and in its own place.

Design notes: a report that reaches the driver under an index is always one of the task with this
index (`Ledger.received`). So nothing has to be assumed about the ids that tasks report, and tasks
may report the id of another one.
-/
import SmokeTest.Pool.Batch
import SmokeTest.Proofs.Pool.Collecting
import SmokeTest.Proofs.Pool.Ledger

namespace SmokeTest.Pool

variable {σ ω : Type}

/-- The events lead an accepted batch, whose time is over at `deadline`, to the state `s`. -/
structure Batch.Run (b : Batch σ ω) (deadline : Option Nat) (world : ω) (events : List Event)
    (s : State σ ω) : Prop where
  accepted : b.fault? = none
  reached : (b.start world).after? deadline events = some s

/-! ### What is said of a task -/

/-- The outcome says that the task with the id could not be run to its end, and for what reason. -/
structure ExecError (taskId : String) (time : Nat) (reason : String) (r : Outcome) : Prop where
  id : r.id = taskId
  verdict : r.verdict = .execError
  elapsed : r.elapsed = time
  message : r.message = s!"EXEC_ERROR: id [{taskId}], {reason}"

/-- What is said of the task with the id when a report was received for it: the report as it is, if
it names the task, and otherwise that it names something else, with the time that was reported. -/
inductive Believed (id : String) (o : Outcome) : Outcome → Prop
  | own (names : o.id = id) : Believed id o o
  | foreign {r : Outcome} (names : o.id ≠ id)
      (error : ExecError id o.elapsed
        s!"internal consistency error, result reported for [{o.id}]" r) : Believed id o r

theorem execError_mismatched (id : String) (o : Outcome) :
    ExecError id o.elapsed s!"internal consistency error, result reported for [{o.id}]"
      (mismatched id o) :=
  ⟨rfl, rfl, rfl, by simp [mismatched, toString, ← String.toList_inj]⟩

theorem execError_overdue (seconds : Nat) (id : String) :
    ExecError id 0 s!"cancelled after batch timeout of {seconds} second(s)"
      (overdue seconds id) :=
  ⟨rfl, rfl, rfl, by simp [overdue, Text.decimal, toString, ← String.toList_inj]⟩

theorem execError_abandoned (id : String) :
    ExecError id 0 "engine error, worker pool stopped before the unit completed" (abandoned id) :=
  ⟨rfl, rfl, rfl, by simp [abandoned, toString, ← String.toList_inj]⟩

theorem believed_settle (timeoutSeconds : Nat) (timedOut : Bool) (id : String) (o : Outcome) :
    Believed id o (settle timeoutSeconds timedOut id (some o)) := by
  rw [settle]
  split
  · next names => exact .own names
  · next names => exact .foreign names (execError_mismatched id o)

theorem ExecError.unique {taskId : String} {time : Nat} {reason : String} {r r' : Outcome}
    (h : ExecError taskId time reason r) (h' : ExecError taskId time reason r') : r = r' :=
  Outcome.ext (h.id.trans h'.id.symm) (h.verdict.trans h'.verdict.symm)
    (h.elapsed.trans h'.elapsed.symm) (h.message.trans h'.message.symm)

theorem Believed.unique {id : String} {o r r' : Outcome} (h : Believed id o r)
    (h' : Believed id o r') : r = r' := by
  cases h with
  | own names =>
    cases h' with
    | own => rfl
    | foreign other => exact absurd names other
  | foreign other error =>
    cases h' with
    | own names => exact absurd names other
    | foreign _ error' => exact error.unique error'

theorem Believed.id {id : String} {o r : Outcome} (h : Believed id o r) : r.id = id := by
  cases h with
  | own names => exact names
  | foreign _ error => exact error.id

/-! ### Reports that were delivered -/

/-- Exactly one worker took the job of the task; what it then noted is what the task goes through
before it reports the outcome; and this was sent and received, once each. -/
def Delivered (t : Task σ ω) (log : List Note) (index : Nat) (o : Outcome) : Prop :=
  ∃ w notes, t.Reports index notes o ∧
    history log index = .taken w index :: notes ++ [.sent index o, .received index o]

theorem Delivered.reportsReceived {t : Task σ ω} {log : List Note} {index : Nat} {o : Outcome}
    (h : Delivered t log index o) : reportsReceived log index = [o] := by
  obtain ⟨w, notes, report, story⟩ := h
  rw [reportsReceived_eq_history, story, List.cons_append, List.filterMap_cons,
    List.filterMap_append, report.way.filterMap (fun _ => rfl) (fun _ _ => rfl)]
  simp

/-- Either nothing was received for a task, or one report was, and it is the task's own. -/
theorem State.Ledger.delivered {tasks : List (Task σ ω)} {s : State σ ω} (ledger : Ledger tasks s)
    {index : Nat} {t : Task σ ω} (get : tasks[index]? = some t) :
    Pool.reportsReceived s.log index = [] ∨ ∃ o, Delivered t s.log index o := by
  cases h : Pool.reportsReceived s.log index with
  | nil => exact .inl rfl
  | cons o rest =>
    -- one report is enough to know the whole story of the job
    have received : .received index o ∈ s.log := mem_reportsReceived.mp (h ▸ List.mem_cons_self)
    obtain ⟨t', w, notes, get', report, story⟩ := ledger.received received
    rw [get] at get'
    cases get'
    exact .inr ⟨o, w, notes, report, story⟩

/-- The driver has received a job exactly if its report is the only one received for it. -/
theorem State.Ledger.received_iff {tasks : List (Task σ ω)} {s : State σ ω}
    (ledger : Ledger tasks s) {i : Nat} {o : Outcome} :
    (i, .received o) ∈ s.places ↔ Pool.reportsReceived s.log i = [o] := by
  constructor
  · intro mem
    have received : .received i o ∈ s.log := mem_places.mp mem
    obtain ⟨t, _, _, get, _⟩ := ledger.received received
    rw [← mem_reportsReceived] at received
    rcases ledger.delivered get with nothing | ⟨o', delivered⟩
    · rw [nothing] at received
      cases received
    · have one := delivered.reportsReceived
      rw [one, List.mem_singleton] at received
      rw [one, received]
  · intro one
    exact mem_places.mpr (mem_reportsReceived.mp (one ▸ List.mem_singleton_self o))

/-- The driver has not received a job exactly if no report was received for it. -/
theorem State.unreceived_iff {s : State σ ω} {i : Nat} :
    (∀ o, (i, .received o) ∉ s.places) ↔ Pool.reportsReceived s.log i = [] := by
  rw [List.eq_nil_iff_forall_not_mem]
  exact forall_congr' fun o => not_congr (mem_places.trans mem_reportsReceived.symm)

/-! ### Results -/

namespace Batch

/-- The result at the place of a task is settled from the last report received for it. -/
theorem Run.getElem?_results {b : Batch σ ω} {deadline : Option Nat} {world : ω}
    {events : List Event} {s : State σ ω} (run : b.Run deadline world events s) {i : Nat}
    {t : Task σ ω} (get : b.tasks[i]? = some t) :
    (b.results s)[i]? = some (settle b.timeoutSeconds s.driver.timedOut t.id
      (reportsReceived s.log i).getLast?) := by
  have lt : i < b.tasks.length := (List.getElem?_eq_some_iff.mp get).1
  rw [results, State.outcomes, settleAll, List.getElem?_zipWith, ids, List.getElem?_map, get,
    (State.collected_of_run run.reached).slots, List.getElem?_map, List.getElem?_range lt]
  rfl

theorem Run.result_of_received {b : Batch σ ω} {deadline : Option Nat} {world : ω}
    {events : List Event} {s : State σ ω} (run : b.Run deadline world events s) {i : Nat}
    {t : Task σ ω} {o : Outcome} (get : b.tasks[i]? = some t)
    (received : (i, .received o) ∈ s.places) :
    (b.results s)[i]? = some (settle b.timeoutSeconds s.driver.timedOut t.id (some o)) := by
  rw [run.getElem?_results get, (State.ledger_of_run run.reached).received_iff.mp received]
  rfl

theorem Run.result_of_nothing {b : Batch σ ω} {deadline : Option Nat} {world : ω}
    {events : List Event} {s : State σ ω} (run : b.Run deadline world events s) {i : Nat}
    {t : Task σ ω} (get : b.tasks[i]? = some t) (nothing : ∀ o, (i, .received o) ∉ s.places) :
    (b.results s)[i]? = some (settle b.timeoutSeconds s.driver.timedOut t.id none) := by
  rw [run.getElem?_results get, State.unreceived_iff.mp nothing]
  rfl

theorem Run.length_results {b : Batch σ ω} {deadline : Option Nat} {world : ω}
    {events : List Event} {s : State σ ω} (run : b.Run deadline world events s) :
    (b.results s).length = b.tasks.length := by
  rw [results, State.outcomes, settleAll, List.length_zipWith, ids, List.length_map,
    (State.collected_of_run run.reached).slots, List.length_map, List.length_range, Nat.min_self]

/-- What is said of the task with the index `i` when the driver has answered, and why. -/
inductive Accounted (b : Batch σ ω) (deadline : Option Nat) (world : ω) (events : List Event)
    (s : State σ ω) (i : Nat) (t : Task σ ω) (r : Outcome) : Prop
  /-- One report was received for the task, which is the one that came of it. It is given as it is,
  or the result says that it names something else. -/
  | reported {o : Outcome} (received : reportsReceived s.log i = [o])
      (delivered : Delivered t s.log i o) (believed : Believed t.id o r)
  /-- Nothing was received for the task, and the driver saw a deadline expire. -/
  | late (received : reportsReceived s.log i = [])
      (saw : State.SawDeadline deadline (b.start world) events)
      (error : ExecError t.id 0
        s!"cancelled after batch timeout of {b.timeoutSeconds} second(s)" r)
  /-- Nothing was received for the task, and the driver saw that every worker had stopped. -/
  | left (received : reportsReceived s.log i = [])
      (saw : State.SawNobody deadline (b.start world) events)
      (error : ExecError t.id 0
        "engine error, worker pool stopped before the unit completed" r)

/-- When the driver has answered and nothing was received for a task, it had one of the two reasons
to stop that leave a task without a report. -/
theorem Run.saw {b : Batch σ ω} {deadline : Option Nat} {world : ω} {events : List Event}
    {s : State σ ω} (run : b.Run deadline world events s) (answered : s.driver.isGone = true)
    {i : Nat} (lt : i < b.tasks.length) (nothing : reportsReceived s.log i = []) :
    if s.driver.timedOut then State.SawDeadline deadline (b.start world) events
    else State.SawNobody deadline (b.start world) events := by
  have collected := State.collected_of_run run.reached
  have stopped : s.driver.stopped? = some s.driver.timedOut := by
    revert answered
    cases s.driver <;> simp [Driver.isGone, Driver.stopped?, Driver.timedOut]
  have ended := (State.ended_of_run (State.opening_start _ _ _) events s run.reached).2 _ stopped
  -- the slot of the task is empty, so the driver has not stopped because it had everything
  have empty : none ∈ s.collector.slots := by
    rw [collected.slots]
    exact List.mem_map.mpr ⟨i, List.mem_range.mpr lt, by rw [nothing]; rfl⟩
  cases h : s.driver.timedOut with
  | true => exact (h ▸ ended).sawDeadline
  | false => exact (h ▸ ended).sawNobody empty

/-- **Every task is accounted for.** When the driver of an accepted batch answers, there is one
result for each task. The result in the place of a task carries the id of the task, and it is the
report that this task sent; or it says that the report named something else; or nothing was received
for the task, and the result says that the driver saw the deadline expire or that it saw every
worker stopped. -/
theorem accounted_of_run {b : Batch σ ω} {deadline : Option Nat} {world : ω} {events : List Event}
    {s : State σ ω} (run : b.Run deadline world events s) (answered : s.driver.isGone = true) :
    (b.results s).length = b.tasks.length ∧
      ∀ i t, b.tasks[i]? = some t →
        ∃ r, (b.results s)[i]? = some r ∧ r.id = t.id ∧
          Accounted b deadline world events s i t r := by
  refine ⟨run.length_results, fun i t get => ⟨_, run.getElem?_results get, ?_⟩⟩
  have lt : i < b.tasks.length := (List.getElem?_eq_some_iff.mp get).1
  rcases (State.ledger_of_run run.reached).delivered get with nothing | ⟨o, delivered⟩
  · have saw := run.saw answered lt nothing
    rw [nothing, List.getLast?_nil, settle]
    cases h : s.driver.timedOut with
    | true =>
      rw [h] at saw
      exact ⟨rfl, .late nothing saw (execError_overdue _ _)⟩
    | false =>
      rw [h] at saw
      exact ⟨rfl, .left nothing saw (execError_abandoned _)⟩
  · have received := delivered.reportsReceived
    rw [received, List.getLast?_singleton]
    have believed := believed_settle b.timeoutSeconds s.driver.timedOut t.id o
    exact ⟨believed.id, .reported received delivered believed⟩

/-- A task without a state whose steps all end well, and which reports a pass under some id. -/
def passingTask (id reported : String) (lost : Bool) : Task Unit Unit where
  id := id
  state := ()
  lost := lost
  act _ _ _ := { state := (), world := () }
  outcome _ := { id := reported, verdict := .pass, elapsed := 7, message := "done" }

/-- Two workers for three tasks; the second task is lost and the third one names another task. -/
def lossyBatch : Batch Unit Unit where
  tasks := [passingTask "a" "a" false, passingTask "b" "b" true, passingTask "c" "a" false]
  poolSize := 2
  timeoutSeconds := 60

/-- The first worker runs the first task, the second one is lost, the first one runs the last task
and stops; then the driver receives what there is. -/
def lossyEvents : List Event :=
  List.replicate 13 (.work 0) ++ List.replicate 3 (.work 1) ++ List.replicate 14 (.work 0) ++
    [.poll, .receive, .poll, .receive, .poll, .disconnect, .cancel, .answer]

/-- What is said of the tasks of `lossyBatch`. -/
def lossyOutcomes : List Outcome := [
  ⟨"a", .pass, 7, "done"⟩,
  ⟨"b", .execError, 0,
    "EXEC_ERROR: id [b], engine error, worker pool stopped before the unit completed"⟩,
  ⟨"c", .execError, 7,
    "EXEC_ERROR: id [c], internal consistency error, result reported for [a]"⟩]

theorem accounted_of_lossyBatch :
    ∃ s, lossyBatch.Run lossyBatch.deadline? () lossyEvents s ∧ s.driver.isGone = true ∧
      lossyBatch.results s = lossyOutcomes ∧
      ∀ i t, lossyBatch.tasks[i]? = some t → ∃ r, lossyOutcomes[i]? = some r ∧ r.id = t.id ∧
        Accounted lossyBatch lossyBatch.deadline? () lossyEvents s i t r := by
  obtain ⟨s, run, answered, results⟩ :
      ∃ s, lossyBatch.Run lossyBatch.deadline? () lossyEvents s ∧ s.driver.isGone = true ∧
        lossyBatch.results s = lossyOutcomes :=
    ⟨_, ⟨rfl, rfl⟩, rfl, rfl⟩
  exact ⟨s, run, answered, results, results ▸ (accounted_of_run run answered).2⟩

end Batch

end SmokeTest.Pool
