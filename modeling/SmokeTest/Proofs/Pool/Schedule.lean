/-
The schedule of a batch comes to an end, and it is one of the possible runs.

* `State.cost` — how many events are left at most;
* `exists_cheaper` — as long as the driver has not answered, the schedule has a next event, which
  can happen and lowers the cost;
* `exists_run` — what a batch answers is what is said after a run in which the driver answers.

Design notes: a job costs its own moves, the tick that waits for each of its steps, and the driver's
two moves for its report. The clock only advances when everybody waits for it, and then it makes a
step or the deadline due, so a tick is paid for by what becomes due.
-/
import Mathlib.Algebra.Order.BigOperators.Group.List
import Mathlib.Algebra.Order.Group.Nat
import SmokeTest.Pool.Batch
import SmokeTest.Proofs.Pool.Outcomes

namespace SmokeTest.Pool

variable {σ ω : Type}

/-! ### Costs -/

/-- The events that a worker has left at most with what it is doing. -/
def Worker.cost (clock : Nat) : Worker σ ω → Nat
  | stopped | died => 0
  | idle => 1
  | reporting .. => 4
  | ready _ _ left _ => 5 + 3 * left.length
  | inside _ _ _ left _ _ due => (6 + 3 * left.length) + if clock < due then 1 else 0
  | cleared _ => 18
  | holding _ => 19

/-- The events that the driver has left at most, apart from the reports; one less if the deadline is
due. -/
def Driver.cost (due : Bool) : Driver → Nat
  | collecting => if due then 4 else 5
  | waiting => if due then 3 else 4
  | collected _ => 2
  | closing _ => 1
  | answered _ => 0

/-- Whether the event is one of the driver's own. -/
def Event.isDriver : Event → Bool
  | tick _ | work _ => false
  | _ => true

/-- The events that are left at most. -/
def State.cost (deadline : Option Nat) (s : State σ ω) : Nat :=
  19 * s.queue.length + (s.workers.map (Worker.cost s.clock)).sum + 2 * s.channel.length +
    s.driver.cost (s.isDue deadline)

/-- A worker that moves on changes its own share of a sum over the workers. -/
theorem sum_map_set {workers : List (Worker σ ω)} {w : Nat} {phase : Worker σ ω}
    (here : workers[w]? = some phase) (f : Worker σ ω → Nat) :
    ∃ others, (workers.map f).sum = f phase + others ∧
      ∀ phase', ((workers.set w phase').map f).sum = f phase' + others := by
  induction workers generalizing w with
  | nil => simp at here
  | cons first rest ih =>
    cases w with
    | zero =>
      simp only [List.getElem?_cons_zero, Option.some.injEq] at here
      subst here
      exact ⟨(rest.map f).sum, by simp, fun _ => by simp⟩
    | succ w =>
      obtain ⟨others, hold, hset⟩ := ih (by simpa using here)
      refine ⟨f first + others, ?_, fun phase' => ?_⟩
      · rw [List.map_cons, List.sum_cons, hold]
        omega
      · rw [List.set_cons_succ, List.map_cons, List.sum_cons, hset phase']
        omega

namespace State

/-- A move of a worker that can move lowers the cost. -/
theorem Move.cost_lt {s s' : State σ ω} {w : Nat} {phase : Worker σ ω}
    (here : s.workers[w]? = some phase) (can : s.canMove phase = true) (move : Move s w phase s')
    (deadline : Option Nat) : s'.cost deadline < s.cost deadline := by
  obtain ⟨others, hold, hset⟩ := sum_map_set here (Worker.cost s.clock)
  rw [cost, cost, isDue, isDue, move.clock, move.driver, hold]
  cases move with
  | pass | fail =>
    have due : ¬ s.clock < _ := Nat.not_lt.mpr (of_decide_eq_true can)
    simp only [setWorker, note, hset, Worker.cost, if_neg due]
    omega
  | take queue =>
    simp only [setWorker, note, hset, Worker.cost, queue, List.length_cons]
    omega
  | send =>
    simp only [setWorker, note, hset, Worker.cost, List.length_append, List.length_singleton]
    omega
  | enter =>
    simp only [setWorker, note, hset, Worker.cost, List.length_cons]
    split <;> omega
  | start =>
    simp only [setWorker, hset, Worker.cost, Step.all, List.length_cons, List.length_nil]
    omega
  | stop | skip | clear | die | finish | dieBehind | discard =>
    simp only [setWorker, note, hset, Worker.cost, List.length_nil]
    omega

theorem Transition.clock {deadline : Option Nat} {s s' : State σ ω} {e : Event}
    (step : Transition deadline s e s') (own : e.isDriver = true) : s'.clock = s.clock := by
  cases step with
  | tick | work => cases own
  | complete | late | wait | receive | expire | disconnect | cancel | answer => rfl

/-- The driver's own events lower the cost. -/
theorem Transition.cost_lt {deadline : Option Nat} {s s' : State σ ω} {e : Event}
    (step : Transition deadline s e s') (own : e.isDriver = true) :
    s'.cost deadline < s.cost deadline := by
  rw [cost, cost, isDue, isDue, step.clock own]
  -- whether the deadline is due is the same before and after the event
  generalize (deadline.any fun d => decide (d ≤ s.clock)) = due
  cases step with
  | tick | work => cases own
  | receive driver channel =>
    rw [driver, channel, List.length_cons]
    cases due <;> simp only [note, Driver.cost, if_true, if_false, Bool.false_eq_true] <;> omega
  | complete driver | late driver | wait driver | expire driver | disconnect driver
  | cancel driver | answer driver =>
    rw [driver]
    cases due <;> simp only [note, Driver.cost, if_true, if_false, Bool.false_eq_true] <;> omega

/-- What the schedule lets the driver do can happen. -/
theorem driverEvent?_enabled {deadline : Option Nat} {s : State σ ω} {e : Event}
    (now : s.driverEvent? deadline = some e) :
    e.isDriver = true ∧ ∃ s', Transition deadline s e s' := by
  rw [driverEvent?] at now
  split at now
  · next driver =>
    cases now
    by_cases outstanding : s.collector.outstanding = 0
    · exact ⟨rfl, _, .complete driver outstanding⟩
    · cases late : s.isLate deadline with
      | true => exact ⟨rfl, _, .late driver outstanding late⟩
      | false => exact ⟨rfl, _, .wait driver outstanding late⟩
  · next driver =>
    cases channel : s.channel with
    | cons c rest =>
      rw [channel] at now
      cases now
      exact ⟨rfl, _, .receive driver channel⟩
    | nil =>
      rw [channel] at now
      simp only [List.isEmpty_nil, Bool.not_true, Bool.false_eq_true, if_false] at now
      split at now
      · next gone =>
        cases now
        exact ⟨rfl, _, .disconnect driver channel gone⟩
      · split at now
        · next due =>
          cases now
          exact ⟨rfl, _, .expire driver channel due⟩
        · cases now
  · next driver =>
    cases now
    exact ⟨rfl, _, .cancel driver⟩
  · next driver =>
    cases now
    exact ⟨rfl, _, .answer driver⟩
  · cases now

/-- A worker that is not gone has a next move. -/
theorem exists_move {s : State σ ω} (w : Nat) {phase : Worker σ ω}
    (active : phase.isGone = false) : ∃ s', Move s w phase s' := by
  cases phase with
  | idle =>
    cases queue : s.queue with
    | nil => exact ⟨_, .stop queue⟩
    | cons j rest => exact ⟨_, .take queue⟩
  | holding j =>
    cases cancelled : s.cancelled with
    | true => exact ⟨_, .skip cancelled⟩
    | false => exact ⟨_, .clear cancelled⟩
  | cleared j =>
    cases lost : j.task.lost with
    | true => exact ⟨_, .die lost⟩
    | false => exact ⟨_, .start lost⟩
  | ready j started left state =>
    cases left with
    | nil => exact ⟨_, .finish⟩
    | cons step left => exact ⟨_, .enter rfl⟩
  | inside j started step left ending state due =>
    cases fault : ending.fault? with
    | none => exact ⟨_, .pass fault⟩
    | some text => exact ⟨_, .fail fault⟩
  | reporting j o =>
    cases lost : j.task.lostBehind with
    | true => exact ⟨_, .dieBehind lost⟩
    | false =>
      cases gone : s.driver.isGone with
      | true => exact ⟨_, .discard lost gone⟩
      | false => exact ⟨_, .send lost gone⟩
  | stopped => cases active
  | died => cases active

/-! ### Waiting for the clock -/

/-- The moments that make something due. -/
theorem mem_moments {deadline : Option Nat} {s : State σ ω} {t : Nat} :
    t ∈ s.moments deadline ↔ deadline = some t ∨
      ∃ j started step left ending state,
        Worker.inside j started step left ending state t ∈ s.workers := by
  rw [moments, List.mem_append, Option.mem_toList, List.mem_filterMap]
  refine or_congr_right ⟨?_, ?_⟩
  · rintro ⟨phase, mem, due⟩
    cases phase with
    | inside j started step left ending state due' =>
      cases due
      exact ⟨j, started, step, left, ending, state, mem⟩
    | _ => cases due
  · rintro ⟨j, started, step, left, ending, state, mem⟩
    exact ⟨_, mem, rfl⟩

theorem Worker.cost_le {clock later : Nat} (le : clock ≤ later) (phase : Worker σ ω) :
    phase.cost later ≤ phase.cost clock := by
  cases phase with
  | inside =>
    simp only [Worker.cost]
    split <;> split <;> omega
  | _ => exact Nat.le_refl _

/-- The driver has nothing to do now only if it waits, there is nothing to receive, some worker is
not gone and the deadline is not due. -/
theorem waiting_of_driverEvent? {deadline : Option Nat} {s : State σ ω}
    (present : s.driver.isGone = false) (idle : s.driverEvent? deadline = none) :
    s.driver = .waiting ∧ s.isDue deadline = false ∧ ∃ phase ∈ s.workers, phase.isGone = false := by
  rw [driverEvent?] at idle
  split at idle
  · cases idle
  · next driver =>
    split at idle
    · cases idle
    · split at idle
      · cases idle
      · next some_left =>
        split at idle
        · cases idle
        · next due =>
          refine ⟨driver, Bool.eq_false_iff.mpr due, ?_⟩
          simpa using some_left
  · cases idle
  · cases idle
  · next driver =>
    rw [driver] at present
    cases present

/-- A tick that leads to the first moment at which something becomes due lowers the cost, if the
driver waits for it. -/
theorem cost_tick_lt {deadline : Option Nat} {s : State σ ω} {t : Nat} (lt : s.clock < t)
    (driver : s.driver = .waiting) (due : s.isDue deadline = false)
    (mem : t ∈ s.moments deadline) : cost deadline { s with clock := t } < s.cost deadline := by
  have shares : ∀ phase ∈ s.workers, Worker.cost t phase ≤ Worker.cost s.clock phase :=
    fun phase _ => Worker.cost_le (Nat.le_of_lt lt) phase
  have workers := List.sum_le_sum shares
  -- either the deadline becomes due, or a worker that was inside a step does
  show 19 * s.queue.length + (s.workers.map (Worker.cost t)).sum + 2 * s.channel.length +
    s.driver.cost (deadline.any (· ≤ t)) < _
  rw [cost, driver, due]
  rcases mem_moments.mp mem with rfl | ⟨j, started, step, left, ending, state, here⟩
  · have now : (some t).any (· ≤ t) = true := by simp
    rw [now, Driver.cost, Driver.cost, if_pos rfl, if_neg Bool.false_ne_true]
    omega
  · have share : Worker.cost t (.inside j started step left ending state t) <
        Worker.cost s.clock (.inside j started step left ending state t) := by
      rw [Worker.cost, Worker.cost, if_pos lt, if_neg (Nat.lt_irrefl t)]
      omega
    have workers := List.sum_lt_sum _ _ shares ⟨_, here, share⟩
    have driver : Driver.cost (deadline.any (· ≤ t)) .waiting ≤ Driver.cost false .waiting := by
      cases deadline.any (· ≤ t) <;> decide
    omega

/-- When everybody waits for the clock, there is a moment to wait for, and the tick that leads to it
lowers the cost. -/
theorem exists_moment {deadline : Option Nat} {s : State σ ω}
    (present : s.driver.isGone = false) (idle : s.driverEvent? deadline = none)
    (stuck : ∀ phase ∈ s.workers, s.canMove phase = false) :
    ∃ t, (s.moments deadline).min? = some t ∧
      cost deadline { s with clock := s.clock + (t - s.clock) } < s.cost deadline := by
  obtain ⟨driver, due, phase, mem, active⟩ := waiting_of_driverEvent? present idle
  -- a worker that is not gone and cannot move is inside a step that is not due
  have some_moment : ∃ t, t ∈ s.moments deadline := by
    have blocked := stuck phase mem
    cases phase with
    | inside j started step left ending state t =>
      exact ⟨t, mem_moments.mpr (.inr ⟨j, started, step, left, ending, state, mem⟩)⟩
    | stopped => cases active
    | died => cases active
    | _ => cases blocked
  obtain ⟨_, moment⟩ := some_moment
  obtain ⟨t, first⟩ := Option.isSome_iff_exists.mp (List.isSome_min?_of_mem moment)
  have among := List.min?_mem first
  have lt : s.clock < t := by
    rcases mem_moments.mp among with rfl | ⟨j, started, step, left, ending, state, here⟩
    · simpa [isDue] using due
    · simpa [canMove] using stuck _ here
  have clock : s.clock + (t - s.clock) = t := by omega
  exact ⟨t, first, clock.symm ▸ cost_tick_lt lt driver due among⟩

/-! ### The schedule -/

/-- As long as the driver has not answered, the schedule has a next event, which can happen and
lowers the cost. -/
theorem exists_cheaper (deadline : Option Nat) {s : State σ ω}
    (present : s.driver.isGone = false) :
    ∃ e s', s.scheduled? deadline = some e ∧ s.next? deadline e = some s' ∧
      s'.cost deadline < s.cost deadline := by
  rw [scheduled?, present, if_neg Bool.false_ne_true]
  cases idle : s.driverEvent? deadline with
  | some e =>
    obtain ⟨own, s', step⟩ := driverEvent?_enabled idle
    exact ⟨e, s', rfl, next?_eq_some_iff.mpr step, step.cost_lt own⟩
  | none =>
    cases found : s.workers.findIdx? s.canMove with
    | some w =>
      obtain ⟨lt, can, _⟩ := List.findIdx?_eq_some_iff_getElem.mp found
      have here : s.workers[w]? = some s.workers[w] := List.getElem?_eq_getElem lt
      have active : (s.workers[w]).isGone = false := by
        cases phase : s.workers[w] with
        | stopped => rw [phase] at can; cases can
        | died => rw [phase] at can; cases can
        | _ => rfl
      obtain ⟨s', move⟩ := exists_move w active
      exact ⟨.work w, s', rfl, next?_eq_some_iff.mpr (.work here move), move.cost_lt here can _⟩
    | none =>
      -- nobody can move, so everybody waits for the clock
      have stuck := List.findIdx?_eq_none_iff.mp found
      obtain ⟨t, first, cheaper⟩ := exists_moment present idle stuck
      exact ⟨.tick (t - s.clock), _, by rw [first]; rfl, next?_eq_some_iff.mpr (.tick _), cheaper⟩

/-- What the schedule leads to is reached by events. -/
theorem exists_events_follow (deadline : Option Nat) (fuel : Nat) (s : State σ ω) :
    ∃ events, s.after? deadline events = some (s.follow deadline fuel) := by
  induction fuel generalizing s with
  | zero => exact ⟨[], rfl⟩
  | succ fuel ih =>
    rw [follow]
    cases next : (s.scheduled? deadline).bind (s.next? deadline) with
    | none => exact ⟨[], rfl⟩
    | some s' =>
      obtain ⟨e, _, step⟩ := Option.bind_eq_some_iff.mp next
      obtain ⟨events, run⟩ := ih s'
      exact ⟨e :: events, by rw [after?, step]; exact run⟩

/-- With as much fuel as the state costs the schedule leads to an answer. -/
theorem isGone_follow {deadline : Option Nat} {fuel : Nat} {s : State σ ω}
    (enough : s.cost deadline ≤ fuel) : (s.follow deadline fuel).driver.isGone = true := by
  induction fuel generalizing s with
  | zero =>
    cases present : s.driver.isGone with
    | true => exact present
    | false =>
      obtain ⟨_, _, _, _, cheaper⟩ := exists_cheaper deadline present
      omega
  | succ fuel ih =>
    cases present : s.driver.isGone with
    | true =>
      rw [follow, scheduled?, present]
      exact present
    | false =>
      obtain ⟨e, s', scheduled, step, cheaper⟩ := exists_cheaper deadline present
      rw [follow, scheduled, Option.bind_some, step]
      exact ih (by omega)

theorem cost_start_le (deadline : Option Nat) (tasks : List (Task σ ω)) (poolSize : Nat)
    (world : ω) :
    (start tasks poolSize world).cost deadline ≤
      19 * tasks.length + min poolSize tasks.length + 5 := by
  have queue : (start tasks poolSize world).queue.length = tasks.length := by simp [start, jobs]
  have workers : ((start tasks poolSize world).workers.map
      (Worker.cost (start tasks poolSize world).clock)).sum = min poolSize tasks.length := by
    simp [start, Worker.cost]
  have driver : ∀ due, Driver.cost due .collecting ≤ 5 := by decide
  have driver := driver (isDue deadline (start tasks poolSize world))
  rw [cost, queue, workers]
  exact Nat.add_le_add_left driver _

end State

/-! ### Batches -/

namespace Batch

/-- A batch that is accepted comes to an answer. -/
theorem isGone_final (b : Batch σ ω) (world : ω) : (b.final world).driver.isGone = true := by
  have cost := State.cost_start_le b.deadline? b.tasks b.poolSize world
  refine State.isGone_follow (Nat.le_trans cost ?_)
  rw [events]
  omega

/-- **What a batch answers is said after one of the possible runs.** A batch that is accepted
answers; there are events after which the driver has answered, and the batch answers with what is
said then. -/
theorem exists_run {b : Batch σ ω} (accepted : b.fault? = none) (world : ω) :
    ∃ events s, b.Run b.deadline? world events s ∧ s.driver.isGone = true ∧
      b.run world = .ok (b.results s) := by
  obtain ⟨events, reached⟩ := State.exists_events_follow b.deadline? b.events (b.start world)
  have run : b.Run b.deadline? world events (b.final world) := ⟨accepted, reached⟩
  refine ⟨events, b.final world, run, b.isGone_final world, ?_⟩
  rw [Batch.run, accepted]
  by_cases none_left : b.tasks.isEmpty = true
  · -- without tasks there is nothing to say, whatever the state
    have length := run.length_results
    rw [List.isEmpty_iff.mp none_left, List.length_nil, List.length_eq_zero_iff] at length
    rw [length]
    exact if_pos none_left
  · exact if_neg none_left

end Batch

end SmokeTest.Pool
