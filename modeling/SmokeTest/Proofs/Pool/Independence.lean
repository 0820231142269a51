/-
What a batch says of a task does not depend on the schedule, the workers or the other tasks.

* `SameButTime` — two outcomes that differ at most in a time that was measured;
* `Undisturbed` — the driver has answered without regard to the deadline, and no worker has died;
* `results_eq_out` — then the results are what comes of each task alone, in their order.

Design notes: how many workers there are and in which order the events happen is nowhere restricted,
so all undisturbed runs of a batch agree, and so do those of two batches on the tasks they share.
-/
import SmokeTest.Proofs.Pool.Losses

namespace SmokeTest.Pool

variable {σ ω : Type}

/-- The outcomes are the same, apart from the time that was measured if a step did not end well. -/
def SameButTime (r r' : Outcome) : Prop :=
  r = r' ∨ r.verdict = .userError ∧ r' = { r with elapsed := r'.elapsed }

/-- What comes of a task alone is the same whatever was measured. -/
theorem Task.sameButTime_out (t : Task σ ω) (world : ω) (measured measured' : Nat) :
    SameButTime (t.out world measured) (t.out world measured') := by
  rw [out, out]
  cases (t.wholeCourse world).result with
  | ok o => exact .inl rfl
  | error text =>
    -- a faulty task is always reported under its own id
    have own : ∀ m, (t.report m (.error text)).id = t.id := fun _ => rfl
    simp only [own, if_true]
    exact .inr ⟨rfl, rfl⟩

namespace Batch

/-- The events lead an accepted batch, whose tasks ignore each other, to an answer that the deadline
has no part in, and no worker has died on the way. -/
structure Undisturbed (b : Batch σ ω) (deadline : Option Nat) (world : ω) (events : List Event)
    (s : State σ ω) : Prop extends b.Run deadline world events s where
  apart : Apart b.tasks
  answered : s.driver = .answered false
  alive : ∀ p ∈ s.workers, p.isDead = false

variable {b b' : Batch σ ω} {deadline deadline' : Option Nat} {world : ω}
  {events events' : List Event} {s s' : State σ ω}

theorem Run.poolSize_pos (run : b.Run deadline world events s) : 0 < b.poolSize := by
  have accepted := run.accepted
  rw [fault?] at accepted
  by_contra none_there
  rw [if_pos (by omega)] at accepted
  cases accepted

/-- If no worker has died, the driver has received every job. -/
theorem Run.received_of_alive (run : b.Run deadline world events s)
    (answered : s.driver = .answered false) (alive : ∀ p ∈ s.workers, p.isDead = false) {i : Nat}
    (lt : i < b.tasks.length) : ∃ o, (i, .received o) ∈ s.places := by
  rcases run.settled answered with complete | forsaken
  · exact complete i lt
  · have survivor : ∃ p ∈ s.workers, p.isDead = false := by
      have pos : 0 < s.workers.length := by
        have size := run.poolSize_pos
        rw [State.length_workers_of_run run.reached]
        omega
      exact ⟨s.workers[0], List.getElem_mem pos, alive _ (List.getElem_mem pos)⟩
    refine (forsaken.received_or_dropped (State.ledger_of_run run.reached) survivor
      lt).resolve_right fun dropped => ?_
    -- only a worker that dies drops a job without being told to
    obtain ⟨w, -, died⟩ := forsaken.graves i (State.mem_places.mp dropped)
    cases alive _ (List.mem_of_getElem? died)

theorem Undisturbed.alone (h : b.Undisturbed deadline world events s) {i : Nat} {t : Task σ ω}
    (get : b.tasks[i]? = some t) :
    (∃ measured, (b.results s)[i]? = some (t.out world measured)) ∧
      stepsEntered s.log i = (t.wholeCourse world).entered ∧
      ∃ r, (b.results s)[i]? = some r ∧ t.Said world (stepsEntered s.log i) r := by
  obtain ⟨o, received⟩ :=
    h.toRun.received_of_alive h.answered h.alive (List.getElem?_eq_some_iff.mp get).1
  exact ⟨h.toRun.result_alone h.apart get received,
    ((State.onCourse_of_run h.apart h.reached).alone get received).2,
    h.toRun.said_alone h.apart get received⟩

/-- **A batch says of each task what comes of the task alone.** In an undisturbed run, with however
many workers and in whatever order, the results are what comes of each task alone, in the order of
the tasks, up to the time that was measured for a step that did not end well; and each task has
entered the steps that it enters alone. This is what it reports behind its four steps; or else it is
at fault, in the words of the first step that did not end well, and has entered no step behind it.
So what is said of a task is the same in any two undisturbed runs of batches it belongs to, whatever
the other tasks are. -/
theorem results_eq_out (h : b.Undisturbed deadline world events s) :
    (∃ measured : Nat → Nat,
      b.results s = b.tasks.mapIdx fun i t => t.out world (measured i)) ∧
    (∀ i t, b.tasks[i]? = some t →
      (∃ measured, t.out world measured =
        settle b.timeoutSeconds false t.id (some (t.alone world).1)) ∧
      stepsEntered s.log i = (t.wholeCourse world).entered ∧
      ∃ r, (b.results s)[i]? = some r ∧ t.Said world (stepsEntered s.log i) r) ∧
    ∀ (b' : Batch σ ω) (deadline' : Option Nat) (events' : List Event) (s' : State σ ω),
      b'.Undisturbed deadline' world events' s' → ∀ (i j : Nat) (t : Task σ ω),
        b.tasks[i]? = some t → b'.tasks[j]? = some t → ∃ r r', (b.results s)[i]? = some r ∧
          (b'.results s')[j]? = some r' ∧ SameButTime r r' := by
  refine ⟨?_, fun i t get => ⟨?_, (h.alone get).2⟩, ?_⟩
  · have said : ∀ i : Nat, ∃ measured, ∀ t : Task σ ω, b.tasks[i]? = some t →
        (b.results s)[i]? = some (t.out world measured) := by
      intro i
      cases get : b.tasks[i]? with
      | none => exact ⟨0, fun _ none_there => by cases none_there⟩
      | some t =>
        obtain ⟨measured, said⟩ := (h.alone get).1
        exact ⟨measured, fun _ same => Option.some.inj same ▸ said⟩
    choose measured said using said
    refine ⟨measured, List.ext_getElem? fun i => ?_⟩
    rw [List.getElem?_mapIdx]
    cases get : b.tasks[i]? with
    | none =>
      rw [List.getElem?_eq_none_iff] at get
      rw [List.getElem?_eq_none (h.toRun.length_results ▸ get), Option.map_none]
    | some t => rw [said i t get, Option.map_some]
  · obtain ⟨measured, alone⟩ := t.exists_out_alone b.timeoutSeconds false world
    exact ⟨measured, alone.symm⟩
  · intro b' deadline' events' s' h' i j t get get'
    obtain ⟨measured, said⟩ := (h.alone get).1
    obtain ⟨measured', said'⟩ := (h'.alone get').1
    exact ⟨_, _, said, said', t.sameButTime_out world measured measured'⟩

/-- A task that counts its steps in the world and cannot see the count. -/
def countingTask (id reported : String) (ending : Step → Ending) : Task Unit Nat where
  id := id
  state := ()
  act step _ world := { ending := ending step, state := (), world := world + 1, took := 1 }
  outcome _ := { id := reported, verdict := .pass, elapsed := 7, message := "done" }

/-- A task that passes, one that fails, one that panics, and one that names another task. -/
def mixedBatch (poolSize : Nat) : Batch Unit Nat where
  tasks := [
    countingTask "a" "a" fun _ => .done,
    countingTask "b" "b" fun step => if step = .execute then .failed "problem" else .done,
    countingTask "c" "c" fun step => if step = .prepare then .panicked none else .done,
    countingTask "d" "a" fun _ => .done]
  poolSize := poolSize
  timeoutSeconds := 60

/-- The driver receives four reports and answers. -/
def fourReceived : List Event :=
  (List.replicate 4 [Event.poll, .receive]).flatten ++ [.poll, .cancel, .answer]

/-- One worker runs all tasks in their order. -/
def soloEvents : List Event := List.replicate 40 (.work 0) ++ fourReceived

/-- Two workers take turns, and the clock advances before the first of them is left alone. -/
def duetEvents : List Event :=
  (List.replicate 15 [Event.work 0, .work 1]).flatten ++ .tick 5 :: List.replicate 11 (.work 0) ++
    fourReceived

theorem apart_mixedBatch (poolSize : Nat) : Apart (mixedBatch poolSize).tasks := by
  refine .of_blind fun t mem step _ _ _ => ?_
  simp only [mixedBatch, List.mem_cons, List.not_mem_nil, or_false] at mem
  rcases mem with rfl | rfl | rfl | rfl <;> exact ⟨rfl, rfl⟩

/-- What is said of the tasks of `mixedBatch`. -/
def mixedOutcomes : List Outcome := [
  ⟨"a", .pass, 7, "done"⟩,
  ⟨"b", .userError, 0, "problem"⟩,
  ⟨"c", .userError, 0, "unit panicked"⟩,
  ⟨"d", .execError, 7,
    "EXEC_ERROR: id [d], internal consistency error, result reported for [a]"⟩]

theorem results_of_mixedBatch :
    ∃ s s', (mixedBatch 1).Undisturbed (mixedBatch 1).deadline? 0 soloEvents s ∧
      (mixedBatch 2).Undisturbed (mixedBatch 2).deadline? 0 duetEvents s' ∧
      (mixedBatch 1).results s = mixedOutcomes ∧ (mixedBatch 2).results s' = mixedOutcomes ∧
      (∃ measured : Nat → Nat,
        mixedOutcomes = (mixedBatch 1).tasks.mapIdx fun i t => t.out 0 (measured i)) ∧
      (∀ (i : Nat) (t : Task Unit Nat), (mixedBatch 1).tasks[i]? = some t →
        ∃ r, mixedOutcomes[i]? = some r ∧ t.Said 0 (stepsEntered s.log i) r) ∧
      ∃ r r', mixedOutcomes[1]? = some r ∧ mixedOutcomes[1]? = some r' ∧ SameButTime r r' := by
  obtain ⟨s, run, answered, workers, outcomes⟩ :
      ∃ s, (mixedBatch 1).Run (mixedBatch 1).deadline? 0 soloEvents s ∧
        s.driver = .answered false ∧ s.workers = [.idle] ∧
        (mixedBatch 1).results s = mixedOutcomes :=
    ⟨_, ⟨rfl, rfl⟩, rfl, rfl, rfl⟩
  obtain ⟨s', run', answered', workers', outcomes'⟩ :
      ∃ s, (mixedBatch 2).Run (mixedBatch 2).deadline? 0 duetEvents s ∧
        s.driver = .answered false ∧ s.workers = [.idle, .stopped] ∧
        (mixedBatch 2).results s = mixedOutcomes :=
    ⟨_, ⟨rfl, rfl⟩, rfl, rfl, rfl⟩
  have solo : (mixedBatch 1).Undisturbed (mixedBatch 1).deadline? 0 soloEvents s :=
    ⟨run, apart_mixedBatch 1, answered, by simp [workers, Worker.isDead]⟩
  have duet : (mixedBatch 2).Undisturbed (mixedBatch 2).deadline? 0 duetEvents s' :=
    ⟨run', apart_mixedBatch 2, answered', by simp [workers', Worker.isDead]⟩
  obtain ⟨results, alone, others⟩ := results_eq_out solo
  have agree := others _ _ _ _ duet 1 1 _ rfl rfl
  rw [outcomes] at results alone agree
  rw [outcomes'] at agree
  exact ⟨s, s', solo, duet, outcomes, outcomes', results, fun i t get => (alone i t get).2.2, agree⟩

end Batch

end SmokeTest.Pool
