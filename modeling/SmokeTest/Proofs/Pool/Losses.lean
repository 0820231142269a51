/-
What is lost with the workers that die, and what is not.

A worker that dies takes the job that it has along, and no other one. As long as one worker is left,
the jobs in the queue are taken all the same, and what was sent is received before the driver sees
that nobody is left.

* `State.isLost`, `State.lossCount` — the jobs that were lost with their workers;
* `Forsaken.exists_survivor` — with fewer losses than workers one of them is left;
* `Run.settled` — a driver that answers and saw no deadline has all reports, or nobody is left;
* `results_of_losses` — which tasks get what is said of them alone, and what is said of the others.

Design notes: the bound on the losses is used only to know that the queue is empty. Whether a task
gets its own outcome depends on whether its report was sent, however many workers have died.
-/
import SmokeTest.Proofs.Pool.Alone
import SmokeTest.Proofs.Pool.Conservation

namespace SmokeTest.Pool

variable {σ ω : Type}

namespace State

variable {tasks : List (Task σ ω)} {s : State σ ω}

/-! ### Lost jobs -/

/-- Whether the job is lost: the worker that took it has died, and no report of it was sent. -/
def isLost (s : State σ ω) (i : Nat) : Bool :=
  (takers s.log i).any (fun w => s.workers[w]?.any Worker.isDead) && (reportsSent s.log i).isEmpty

/-- How many of the first jobs are lost. -/
def lossCount (s : State σ ω) (n : Nat) : Nat :=
  (List.range n).countP s.isLost

theorem isLost_iff {i : Nat} : s.isLost i = true ↔
    (∃ w, .taken w i ∈ s.log ∧ s.workers[w]? = some .died) ∧ ∀ o, .sent i o ∉ s.log := by
  rw [isLost, Bool.and_eq_true, List.any_eq_true, List.isEmpty_iff,
    List.eq_nil_iff_forall_not_mem]
  simp only [mem_takers, mem_reportsSent, Option.any_eq_true_iff_get, Worker.isDead_iff]
  refine and_congr_left fun _ => exists_congr fun w => and_congr_right fun _ => ?_
  constructor
  · rintro ⟨some_there, died⟩
    rw [← died, Option.some_get]
  · intro there
    exact ⟨by rw [there]; rfl, by simp [there]⟩

/-! ### Nobody left -/

/-- In a pool that is forsaken the jobs are in the queue, with the driver, or dropped. -/
theorem Forsaken.place (h : Forsaken s) {i : Nat} {p : Place σ ω} (mem : (i, p) ∈ s.places) :
    (∃ j ∈ s.queue, p = .queued j) ∨ (∃ o, p = .received o) ∨ p = .dropped := by
  have there := mem_places.mp mem
  cases p with
  | queued j => exact .inl ⟨j, there.1, rfl⟩
  | held w phase =>
    obtain ⟨here, j, has, -⟩ := there
    rcases Worker.isGone_iff.mp (h.gone phase (List.mem_of_getElem? here)) with rfl | rfl
    · cases has
    · cases has
  | posted o => exact absurd mem (not_posted h.channel)
  | received o => exact .inr (.inl ⟨o, rfl⟩)
  | dropped => exact .inr (.inr rfl)

/-- What was sent before a pool was forsaken, the driver has received. -/
theorem Forsaken.received (h : Forsaken s) (ledger : Ledger tasks s) {i : Nat} {o : Outcome}
    (lt : i < tasks.length) (sent : .sent i o ∈ s.log) : (i, .received o) ∈ s.places :=
  (ledger.sent lt sent).resolve_left (not_posted h.channel)

theorem Ledger.sent_of_received (h : Ledger tasks s) {i : Nat} {o : Outcome}
    (received : (i, .received o) ∈ s.places) : .sent i o ∈ s.log := by
  obtain ⟨_, _, _, _, _, story⟩ := h.received (mem_places.mp received)
  refine mem_of_mem_history (?_ : _ ∈ history s.log i)
  rw [story]
  simp

theorem Ledger.not_queued (h : Ledger tasks s) {i w : Nat} (taken : .taken w i ∈ s.log)
    (j : Job σ ω) : (i, .queued j) ∉ s.places := by
  intro mem
  obtain ⟨t, -, told⟩ := h.stories i _ mem
  have noted : .taken w i ∈ history s.log i := mem_history (beq_self_eq_true i) taken
  generalize history s.log i = story at told noted
  cases told
  cases noted

/-- In a pool that is forsaken the jobs that are lost are those that were dropped. -/
theorem Forsaken.isLost_iff (h : Forsaken s) (ledger : Ledger tasks s) {i : Nat}
    (lt : i < tasks.length) : s.isLost i = true ↔ (i, .dropped) ∈ s.places := by
  rw [State.isLost_iff]
  constructor
  · rintro ⟨⟨w, taken, -⟩, unsent⟩
    obtain ⟨p, mem⟩ := ledger.exists_place lt
    obtain ⟨j, -, rfl⟩ | ⟨o, rfl⟩ | rfl := h.place mem
    · exact absurd mem (ledger.not_queued taken j)
    · exact absurd (ledger.sent_of_received mem) (unsent o)
    · exact mem
  · intro dropped
    refine ⟨h.graves i (mem_places.mp dropped), fun o sent => ?_⟩
    cases ledger.unique dropped (h.received ledger lt sent)

/-- No job is dropped twice. -/
theorem Ledger.nodup_droppedIndices (h : Ledger tasks s) : (droppedIndices s.log).Nodup := by
  have sub : ∀ log : List Note, (droppedIndices log).Sublist
      ((log.filterMap (Note.place? : Note → Option (Nat × Place σ ω))).map Prod.fst) := by
    intro log
    induction log with
    | nil => exact .slnil
    | cons n log ih =>
      cases n with
      | dropped i => exact ih.cons_cons i
      | received i o => exact ih.cons i
      | _ => exact ih
  have nodup := h.nodup
  rw [places, Multiset.map_add] at nodup
  exact (Multiset.nodup_add.mp nodup).2.1.sublist (sub s.log)

/-- In a pool that is forsaken each worker that died has a lost job. -/
theorem Forsaken.deaths_le (h : Forsaken s) (ledger : Ledger tasks s) :
    s.workers.countP Worker.isDead ≤ s.lossCount tasks.length := by
  have lost : droppedIndices s.log ⊆ (List.range tasks.length).filter s.isLost := by
    intro i mem
    have dropped : (i, .dropped) ∈ s.places := mem_places.mpr (mem_droppedIndices.mp mem)
    have lt := ledger.lt_of_mem dropped
    exact List.mem_filter.mpr ⟨List.mem_range.mpr lt, (h.isLost_iff ledger lt).mpr dropped⟩
  -- each death has a dropped job of its own, and these are all different
  rw [← h.deaths, lossCount, List.countP_eq_length_filter]
  exact (List.subperm_of_subset ledger.nodup_droppedIndices lost).length_le

/-- With fewer losses than workers one of them is left. -/
theorem Forsaken.exists_survivor (h : Forsaken s) (ledger : Ledger tasks s)
    (few : s.lossCount tasks.length < s.workers.length) : ∃ p ∈ s.workers, p.isDead = false := by
  by_contra none_left
  have all_dead : ∀ p ∈ s.workers, p.isDead = true := by
    intro p mem
    by_contra alive
    exact none_left ⟨p, mem, Bool.eq_false_iff.mpr alive⟩
  have deaths := h.deaths_le ledger
  rw [List.countP_eq_length.mpr all_dead] at deaths
  omega

/-- A worker that is left has not stopped before the queue was empty. -/
theorem Forsaken.queue_eq_nil (h : Forsaken s) (survivor : ∃ p ∈ s.workers, p.isDead = false) :
    s.queue = [] := by
  obtain ⟨p, mem, alive⟩ := survivor
  rcases Worker.isGone_iff.mp (h.gone p mem) with rfl | rfl
  · exact h.stopped mem
  · cases alive

/-- If some worker is left, every job was received or dropped. -/
theorem Forsaken.received_or_dropped (h : Forsaken s) (ledger : Ledger tasks s)
    (survivor : ∃ p ∈ s.workers, p.isDead = false) {i : Nat} (lt : i < tasks.length) :
    (∃ o, (i, .received o) ∈ s.places) ∨ (i, .dropped) ∈ s.places := by
  obtain ⟨p, mem⟩ := ledger.exists_place lt
  obtain ⟨j, queued, -⟩ | ⟨o, rfl⟩ | rfl := h.place mem
  · rw [h.queue_eq_nil survivor] at queued
    cases queued
  · exact .inl ⟨o, mem⟩
  · exact .inr mem

/-- When no slot is empty, every job was received. -/
theorem Collected.received (collected : Collected tasks.length s) (ledger : Ledger tasks s)
    (complete : s.collector.outstanding = 0) {i : Nat} (lt : i < tasks.length) :
    ∃ o, (i, .received o) ∈ s.places := by
  have length : i < s.collector.slots.length := by
    rw [collected.slots, List.length_map, List.length_range]
    exact lt
  have full : s.collector.slots.countP Option.isNone = 0 := collected.counts ▸ complete
  have filled := List.countP_eq_zero.mp full _ (List.getElem_mem length)
  obtain ⟨o, slot⟩ := Option.ne_none_iff_exists'.mp (mt Option.isNone_iff_eq_none.mpr filled)
  exact ⟨o, (recorded_iff ledger collected).mpr (by rw [List.getElem?_eq_getElem length, slot])⟩

end State

/-! ### What is said -/

namespace Batch

variable {b : Batch σ ω} {deadline : Option Nat} {world : ω} {events : List Event} {s : State σ ω}

/-- A driver that answers and did not stop because of the deadline has received everything, or
nobody is left to send anything. -/
theorem Run.settled (run : b.Run deadline world events s) (answered : s.driver = .answered false) :
    (∀ i < b.tasks.length, ∃ o, (i, .received o) ∈ s.places) ∨ State.Forsaken s := by
  have stopped : s.driver.stopped? = some false := by rw [answered]; rfl
  refine (State.settled_of_run run.reached stopped).imp_left fun complete i lt => ?_
  exact (State.collected_of_run run.reached).received (State.ledger_of_run run.reached) complete lt

/-- Of a task whose report was received is said what comes of it alone. -/
theorem Run.result_alone (run : b.Run deadline world events s) (apart : Apart b.tasks) {i : Nat}
    {t : Task σ ω} {o : Outcome} (get : b.tasks[i]? = some t)
    (received : (i, .received o) ∈ s.places) :
    ∃ measured, (b.results s)[i]? = some (t.out world measured) := by
  obtain ⟨⟨measured, rfl⟩, -⟩ :=
    (State.onCourse_of_run apart run.reached).alone get received
  exact ⟨measured, run.result_of_received get received⟩

/-- What is said of a task whose report was received is what is said of it alone. -/
theorem Run.said_alone (run : b.Run deadline world events s) (apart : Apart b.tasks) {i : Nat}
    {t : Task σ ω} {o : Outcome} (get : b.tasks[i]? = some t)
    (received : (i, .received o) ∈ s.places) :
    ∃ r, (b.results s)[i]? = some r ∧ t.Said world (stepsEntered s.log i) r := by
  obtain ⟨measured, said⟩ := run.result_alone apart get received
  obtain ⟨-, entered⟩ := (State.onCourse_of_run apart run.reached).alone get received
  exact ⟨_, said, Task.said_iff.mpr ⟨entered, measured, rfl⟩⟩

/-- Of a task of which nothing was received is said that nobody was left for it. -/
theorem Run.said_abandoned (run : b.Run deadline world events s)
    (answered : s.driver = .answered false) {i : Nat} {t : Task σ ω} (get : b.tasks[i]? = some t)
    (nothing : ∀ o, (i, .received o) ∉ s.places) :
    ∃ r, (b.results s)[i]? = some r ∧
      ExecError t.id 0 "engine error, worker pool stopped before the unit completed" r := by
  refine ⟨_, run.result_of_nothing get nothing, ?_⟩
  rw [answered]
  exact execError_abandoned t.id

/-- When the driver sees that nobody is left, it has recorded everything that was sent. -/
theorem Run.recorded_of_disconnect (run : b.Run deadline world events s) {mid : State σ ω}
    (moment : State.IsMoment deadline (b.start world) events .disconnect mid) {i : Nat}
    {o : Outcome} (sent : .sent i o ∈ mid.log) : mid.collector.slots[i]? = some (some o) := by
  obtain ⟨next, _, step, _⟩ := moment.transition run.reached
  obtain ⟨before, _, _, reached⟩ := moment
  have ledger := State.ledger_of_run reached
  have lt : i < b.tasks.length := by
    by_contra none_there
    have noted : .sent i o ∈ history mid.log i := mem_history (beq_self_eq_true i) sent
    rw [State.history_of_run reached (Nat.le_of_not_lt none_there)] at noted
    cases noted
  cases step with
  | disconnect _ channel _ =>
    have received := (ledger.sent lt sent).resolve_left (State.not_posted channel)
    exact (State.recorded_iff ledger (State.collected_of_run reached)).mp received

/-- If fewer jobs are lost than there are workers, what is said of each task that is not lost is
what is said of it alone. -/
theorem Run.said_of_few_losses (run : b.Run deadline world events s)
    (answered : s.driver = .answered false) (apart : Apart b.tasks)
    (few : s.lossCount b.tasks.length < min b.poolSize b.tasks.length) {i : Nat} {t : Task σ ω}
    (get : b.tasks[i]? = some t) :
    ∃ r, (b.results s)[i]? = some r ∧
      if s.isLost i then
        ExecError t.id 0 "engine error, worker pool stopped before the unit completed" r
      else t.Said world (stepsEntered s.log i) r := by
  have ledger := State.ledger_of_run run.reached
  have lt : i < b.tasks.length := (List.getElem?_eq_some_iff.mp get).1
  have received_or_lost : (∃ o, (i, .received o) ∈ s.places) ∨
      (i, .dropped) ∈ s.places ∧ s.isLost i = true := by
    rcases run.settled answered with complete | forsaken
    · exact .inl (complete i lt)
    · rw [← State.length_workers_of_run run.reached] at few
      have survivor := forsaken.exists_survivor ledger few
      exact (forsaken.received_or_dropped ledger survivor lt).imp_right fun dropped =>
        ⟨dropped, (forsaken.isLost_iff ledger lt).mpr dropped⟩
  rcases received_or_lost with ⟨o, received⟩ | ⟨dropped, lost⟩
  · -- a report that was received was sent, so the task is not lost
    have kept : ¬ s.isLost i := fun lost =>
      (State.isLost_iff.mp lost).2 o (ledger.sent_of_received received)
    simpa only [if_neg kept] using run.said_alone apart get received
  · have nothing : ∀ o, (i, .received o) ∉ s.places := by
      intro o received
      cases ledger.unique dropped received
    simpa only [if_pos lost] using run.said_abandoned answered get nothing

/-- However many jobs are lost, what is said of each task whose report was sent is what is said of
it alone. -/
theorem Run.said_of_sent (run : b.Run deadline world events s)
    (answered : s.driver = .answered false) (apart : Apart b.tasks) {i : Nat} {t : Task σ ω}
    (get : b.tasks[i]? = some t) :
    ∃ r, (b.results s)[i]? = some r ∧
      if reportsSent s.log i = [] then
        ExecError t.id 0 "engine error, worker pool stopped before the unit completed" r
      else t.Said world (stepsEntered s.log i) r := by
  have ledger := State.ledger_of_run run.reached
  have lt : i < b.tasks.length := (List.getElem?_eq_some_iff.mp get).1
  by_cases unsent : reportsSent s.log i = []
  · -- what is received was sent before
    have nothing : ∀ o, (i, .received o) ∉ s.places := by
      intro o received
      have sent := mem_reportsSent.mpr (ledger.sent_of_received received)
      rw [unsent] at sent
      cases sent
    simpa only [if_pos unsent] using run.said_abandoned answered get nothing
  · obtain ⟨o, sent⟩ := List.exists_mem_of_ne_nil _ unsent
    have received : ∃ o, (i, .received o) ∈ s.places := by
      rcases run.settled answered with complete | forsaken
      · exact complete i lt
      · exact ⟨o, forsaken.received ledger lt (mem_reportsSent.mp sent)⟩
    obtain ⟨o, received⟩ := received
    simpa only [if_neg unsent] using run.said_alone apart get received

/-- **A worker that dies costs only the job that it has, as long as another one is left.** Let the
driver of an accepted batch, whose tasks ignore each other, have answered without regard to the
deadline. Whenever it saw that nobody was left, it had recorded everything that was sent. If fewer
jobs are lost than there are workers, what is said of each task that is not lost is what is said of
it alone, and of each lost one is said that nobody was left for it. However many are lost, this is
said of every task of which no report was sent, and of the others what is said of them alone. -/
theorem results_of_losses (run : b.Run deadline world events s)
    (answered : s.driver = .answered false) (apart : Apart b.tasks) :
    (∀ mid, State.IsMoment deadline (b.start world) events .disconnect mid →
      ∀ i o, .sent i o ∈ mid.log → mid.collector.slots[i]? = some (some o)) ∧
    (s.lossCount b.tasks.length < min b.poolSize b.tasks.length →
      ∀ i t, b.tasks[i]? = some t → ∃ r, (b.results s)[i]? = some r ∧
        if s.isLost i then
          ExecError t.id 0 "engine error, worker pool stopped before the unit completed" r
        else t.Said world (stepsEntered s.log i) r) ∧
    ∀ i t, b.tasks[i]? = some t → ∃ r, (b.results s)[i]? = some r ∧
      if reportsSent s.log i = [] then
        ExecError t.id 0 "engine error, worker pool stopped before the unit completed" r
      else t.Said world (stepsEntered s.log i) r := by
  refine ⟨?_, ?_, ?_⟩
  · exact fun mid moment i o sent => run.recorded_of_disconnect moment sent
  · exact fun few i t get => run.said_of_few_losses answered apart few get
  · exact fun i t get => run.said_of_sent answered apart get

/-- Of the three tasks the second one is lost, and one of the two workers is left. The third one
goes through its four steps and then names another task. -/
theorem losses_of_lossyBatch :
    ∃ s, lossyBatch.Run lossyBatch.deadline? () lossyEvents s ∧ s.driver = .answered false ∧
      Apart lossyBatch.tasks ∧ s.lossCount 3 = 1 ∧ lossyBatch.results s = lossyOutcomes ∧
      ExecError "b" 0 "engine error, worker pool stopped before the unit completed"
        ⟨"b", .execError, 0,
          "EXEC_ERROR: id [b], engine error, worker pool stopped before the unit completed"⟩ ∧
      (passingTask "c" "a" false).Said () [.prepare, .execute, .conclude, .validate]
        ⟨"c", .execError, 7,
          "EXEC_ERROR: id [c], internal consistency error, result reported for [a]"⟩ := by
  obtain ⟨s, run, answered, count, lost, kept, entered, outcomes⟩ :
      ∃ s, lossyBatch.Run lossyBatch.deadline? () lossyEvents s ∧ s.driver = .answered false ∧
        s.lossCount 3 = 1 ∧ s.isLost 1 = true ∧ s.isLost 2 = false ∧
        stepsEntered s.log 2 = [.prepare, .execute, .conclude, .validate] ∧
        lossyBatch.results s = lossyOutcomes :=
    ⟨_, ⟨rfl, rfl⟩, rfl, rfl, rfl, rfl, rfl, rfl⟩
  have apart : Apart lossyBatch.tasks := .of_subsingleton _
  have few : s.lossCount lossyBatch.tasks.length <
      min lossyBatch.poolSize lossyBatch.tasks.length := by
    rw [show lossyBatch.tasks.length = 3 from rfl, count]
    decide
  obtain ⟨-, results, -⟩ := results_of_losses run answered apart
  rw [outcomes] at results
  obtain ⟨_, here, second⟩ := results few 1 _ rfl
  cases Option.some.inj here
  obtain ⟨_, here, third⟩ := results few 2 _ rfl
  cases Option.some.inj here
  rw [lost, if_pos rfl] at second
  rw [kept, if_neg Bool.false_ne_true, entered] at third
  exact ⟨s, run, answered, apart, count, outcomes, second, third⟩

end Batch

end SmokeTest.Pool
