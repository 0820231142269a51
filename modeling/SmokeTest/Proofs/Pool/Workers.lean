/-
How workers leave, and what they leave behind.

A worker stops when the queue is empty or the pool is cancelled, and it dies with the job that it
has. So as long as nobody cancels, each job that is dropped costs one worker, and a worker that has
stopped has left no job in the queue.

* `Move.outcome` — a move goes on, finds the queue empty, or gives up a job;
* `Orderly` — what the workers that are gone tell of the queue and of the jobs that were dropped;
* `alive_of_run` — without a task that costs its worker no worker dies;
* `Forsaken` — nobody is left to send anything, and nothing is left to receive;
* `settled_of_run` — a driver that stopped without regard to the deadline has all reports, or the
  pool is forsaken.

Design notes: `Orderly` holds in every state and says less once the pool is cancelled; `Forsaken` is
what it comes to at the moment at which the driver sees that no worker is left, and it is kept from
then on, because nothing moves any more.
-/
import SmokeTest.Proofs.Pool.Collecting
import SmokeTest.Proofs.Pool.Ledger

namespace SmokeTest.Pool

variable {σ ω : Type}

/-- Whether the worker died with a job. -/
def Worker.isDead : Worker σ ω → Bool
  | died => true
  | _ => false

/-- Whether the driver has cancelled the pool. -/
def Driver.hasCancelled : Driver → Bool
  | closing _ | answered _ => true
  | _ => false

/-- The indices of the jobs that were dropped, the latest first. -/
def droppedIndices (log : List Note) : List Nat :=
  log.filterMap fun
    | .dropped i => some i
    | _ => none

theorem mem_droppedIndices {log : List Note} {i : Nat} :
    i ∈ droppedIndices log ↔ .dropped i ∈ log := by
  rw [droppedIndices, List.mem_filterMap]
  constructor
  · rintro ⟨n, mem, same⟩
    cases n <;> simp_all
  · exact fun mem => ⟨_, mem, rfl⟩

theorem Worker.isDead_iff {p : Worker σ ω} : p.isDead = true ↔ p = .died := by
  cases p <;> simp [isDead]

/-- A worker that is gone has stopped or died. -/
theorem Worker.isGone_iff {p : Worker σ ω} : p.isGone = true ↔ p = .stopped ∨ p = .died := by
  cases p <;> simp [isGone]

namespace State

variable {s s' : State σ ω} {w : Nat} {phase : Worker σ ω}

/-! ### Moves -/

/-- A worker goes on; whatever it notes, it drops no job. -/
structure GoesOn (s s' : State σ ω) (w : Nat) : Prop where
  workers : ∃ phase, s'.workers = s.workers.set w phase ∧ phase.isGone = false
  queue : s.queue = [] → s'.queue = []
  log : ∀ n ∈ s.log, n ∈ s'.log
  dropped : droppedIndices s'.log = droppedIndices s.log

/-- A move goes on, finds the queue empty, or gives up the job: with the worker, or because the
pool is cancelled or the driver gone. -/
theorem Move.outcome (move : Move s w phase s') :
    GoesOn s s' w ∨ (s.queue = [] ∧ s' = s.setWorker w .stopped) ∨
      ∃ j gone, phase.job? = some j ∧ s' = (s.setWorker w gone).note (.dropped j.index) ∧
        (gone = .died ∨ gone = .stopped ∧ (s.cancelled = true ∨ s.driver.isGone = true)) := by
  cases move with
  | stop queue => exact .inr (.inl ⟨queue, rfl⟩)
  | skip cancelled => exact .inr (.inr ⟨_, _, rfl, rfl, .inr ⟨rfl, .inl cancelled⟩⟩)
  | die => exact .inr (.inr ⟨_, _, rfl, rfl, .inl rfl⟩)
  | dieBehind => exact .inr (.inr ⟨_, _, rfl, rfl, .inl rfl⟩)
  | discard _ gone => exact .inr (.inr ⟨_, _, rfl, rfl, .inr ⟨rfl, .inr gone⟩⟩)
  | take queue =>
    exact .inl ⟨⟨_, rfl, rfl⟩, by simp [queue], fun _ => List.mem_cons_of_mem _, rfl⟩
  | enter | pass | fail | send =>
    exact .inl ⟨⟨_, rfl, rfl⟩, id, fun _ => List.mem_cons_of_mem _, rfl⟩
  | clear | start | finish => exact .inl ⟨⟨_, rfl, rfl⟩, id, fun _ => id, rfl⟩

/-- A worker that moves is not gone. -/
theorem Move.isGone (move : Move s w phase s') : phase.isGone = false := by
  cases move <;> rfl

theorem Move.cancelled (move : Move s w phase s') : s'.cancelled = s.cancelled := by
  cases move <;> rfl

/-! ### What the workers that are gone tell -/

/-- How a worker with a job has left: it died, or it stopped in a pool that is cancelled. -/
def HasLeft (s : State σ ω) (gone : Worker σ ω) : Prop :=
  gone = .died ∨ gone = .stopped ∧ s.cancelled = true

/-- What the workers that are gone tell of the queue and of the jobs that were dropped. -/
structure Orderly (s : State σ ω) : Prop where
  cancelled : s.cancelled = s.driver.hasCancelled
  stopped : .stopped ∈ s.workers → s.queue = [] ∨ s.cancelled = true
  graves : ∀ i, .dropped i ∈ s.log →
    ∃ w gone, .taken w i ∈ s.log ∧ s.workers[w]? = some gone ∧ HasLeft s gone
  deaths : s.cancelled = false → (droppedIndices s.log).length = s.workers.countP Worker.isDead

theorem orderly_start (tasks : List (Task σ ω)) (poolSize : Nat) (world : ω) :
    Orderly (start tasks poolSize world) := by
  constructor
  · rfl
  · intro stopped
    cases List.eq_of_mem_replicate stopped
  · intro i dropped
    cases dropped
  · intro _
    have alive : ∀ p ∈ (start tasks poolSize world).workers, ¬ p.isDead = true := by
      intro p mem
      rw [List.eq_of_mem_replicate mem]
      exact Bool.false_ne_true
    exact (List.countP_eq_zero.mpr alive).symm

theorem Orderly.cancelled_of_isGone (h : Orderly s) (gone : s.driver.isGone = true) :
    s.cancelled = true := by
  rw [h.cancelled]
  revert gone
  cases s.driver <;> simp [Driver.isGone, Driver.hasCancelled]

/-- Workers that are gone stay where they are when another one moves. -/
theorem getElem?_set_of_gone {next gone : Worker σ ω} {v : Nat} (here : s.workers[w]? = some phase)
    (active : phase.isGone = false) (there : s.workers[v]? = some gone)
    (left : gone.isGone = true) : (s.workers.set w next)[v]? = some gone := by
  have other : w ≠ v := by
    rintro rfl
    cases here.symm.trans there
    cases active.symm.trans left
  rw [List.getElem?_set_ne other, there]

theorem HasLeft.isGone {gone : Worker σ ω} (h : HasLeft s gone) : gone.isGone = true := by
  rcases h with rfl | ⟨rfl, -⟩ <;> rfl

/-- When a worker that is not dead moves on, the dead are those that there were and it, if it is one
of them now. -/
theorem countP_isDead_set (here : s.workers[w]? = some phase) (active : phase.isGone = false)
    (next : Worker σ ω) :
    (s.workers.set w next).countP Worker.isDead =
      s.workers.countP Worker.isDead + if next.isDead then 1 else 0 := by
  obtain ⟨lt, get⟩ := List.getElem?_eq_some_iff.mp here
  have alive : phase.isDead = false := by
    revert active
    cases phase <;> simp [Worker.isGone, Worker.isDead]
  rw [List.countP_set lt, get, alive]
  simp

/-- The graves stay where they are. -/
theorem Orderly.graves_set {next : Worker σ ω} (h : Orderly s) (s' : State σ ω)
    (here : s.workers[w]? = some phase) (active : phase.isGone = false)
    (workers : s'.workers = s.workers.set w next) (cancelled : s'.cancelled = s.cancelled)
    (log : ∀ n ∈ s.log, n ∈ s'.log) {i : Nat} (dropped : .dropped i ∈ s.log) :
    ∃ w gone, .taken w i ∈ s'.log ∧ s'.workers[w]? = some gone ∧ HasLeft s' gone := by
  obtain ⟨v, gone, taken, there, left⟩ := h.graves i dropped
  refine ⟨v, gone, log _ taken, ?_, ?_⟩
  · rw [workers]
    exact getElem?_set_of_gone here active there left.isGone
  · rw [HasLeft, cancelled]
    exact left

/-- A worker that goes on is not gone, and it drops nothing. -/
theorem Orderly.goOn (h : Orderly s) (here : s.workers[w]? = some phase)
    (active : phase.isGone = false) (goesOn : GoesOn s s' w)
    (same : s'.cancelled = s.cancelled) (cancelled : s'.cancelled = s'.driver.hasCancelled) :
    Orderly s' := by
  obtain ⟨next, workers, stays⟩ := goesOn.workers
  have alive : next.isDead = false := by
    revert stays
    cases next <;> simp [Worker.isGone, Worker.isDead]
  refine ⟨cancelled, fun stopped => ?_, fun i dropped => ?_, fun open' => ?_⟩
  · rw [workers] at stopped
    rcases List.mem_or_eq_of_mem_set stopped with stopped | rfl
    · rw [same]
      exact (h.stopped stopped).imp_left goesOn.queue
    · cases stays
  · rw [← mem_droppedIndices, goesOn.dropped, mem_droppedIndices] at dropped
    exact h.graves_set s' here active workers same goesOn.log dropped
  · rw [same] at open'
    rw [goesOn.dropped, workers, countP_isDead_set here active, alive, h.deaths open']
    rfl

/-- A worker that leaves with its job has died, or the pool is cancelled. -/
theorem Orderly.leave {j : Job σ ω} {gone : Worker σ ω} (h : Orderly s)
    (here : s.workers[w]? = some phase) (active : phase.isGone = false)
    (taken : .taken w j.index ∈ s.log) (left : HasLeft s gone) :
    Orderly ((s.setWorker w gone).note (.dropped j.index)) := by
  refine ⟨h.cancelled, fun stopped => ?_, fun i dropped => ?_, fun open' => ?_⟩
  · rcases List.mem_or_eq_of_mem_set stopped with stopped | rfl
    · exact h.stopped stopped
    · rcases left with same | ⟨-, cancelled⟩
      · cases same
      · exact .inr cancelled
  · rcases List.mem_cons.mp dropped with same | dropped
    · -- the grave of the job is this worker
      cases same
      obtain ⟨lt, -⟩ := List.getElem?_eq_some_iff.mp here
      exact ⟨w, gone, List.mem_cons_of_mem _ taken, List.getElem?_set_self lt, left⟩
    · exact h.graves_set ((s.setWorker w gone).note (.dropped j.index)) here active rfl rfl
        (fun _ => List.mem_cons_of_mem _) dropped
  · -- in an open pool there is one more that died, and one more job that was dropped
    rcases left with rfl | ⟨-, cancelled⟩
    · exact (congrArg (· + 1) (h.deaths open')).trans (countP_isDead_set here active .died).symm
    · cases cancelled.symm.trans open'

theorem Orderly.move (h : Orderly s) (here : s.workers[w]? = some phase)
    (taken : ∀ j, phase.job? = some j → .taken w j.index ∈ s.log) (move : Move s w phase s') :
    Orderly s' := by
  have active := move.isGone
  have cancelled : s'.cancelled = s'.driver.hasCancelled := by
    rw [move.cancelled, move.driver, h.cancelled]
  rcases move.outcome with goesOn | ⟨queue, rfl⟩ | ⟨j, gone, has, rfl, left⟩
  · exact h.goOn here active goesOn move.cancelled cancelled
  · refine ⟨cancelled, fun _ => .inl queue, fun i dropped => ?_, fun open' => ?_⟩
    · exact h.graves_set (s.setWorker w .stopped) here active rfl rfl (fun _ => id) dropped
    · exact (h.deaths open').trans (countP_isDead_set here active .stopped).symm
  · refine h.leave here active (taken j has) ?_
    rcases left with rfl | ⟨rfl, cancelled | driver⟩
    · exact .inl rfl
    · exact .inr ⟨rfl, cancelled⟩
    · exact .inr ⟨rfl, h.cancelled_of_isGone driver⟩

/-- The driver and the clock leave workers, queue and dropped jobs alone. -/
theorem Orderly.of_driver (h : Orderly s) (cancelled : s'.cancelled = s'.driver.hasCancelled)
    (later : s.cancelled = true → s'.cancelled = true) (workers : s'.workers = s.workers)
    (queue : s'.queue = s.queue) (log : ∀ n ∈ s.log, n ∈ s'.log)
    (dropped : droppedIndices s'.log = droppedIndices s.log) : Orderly s' := by
  refine ⟨cancelled, fun stopped => ?_, fun i mem => ?_, fun open' => ?_⟩
  · rw [workers] at stopped
    rw [queue]
    exact (h.stopped stopped).imp_right later
  · rw [← mem_droppedIndices, dropped, mem_droppedIndices] at mem
    obtain ⟨w, gone, taken, there, left⟩ := h.graves i mem
    exact ⟨w, gone, log _ taken, workers ▸ there, left.imp_right fun left => ⟨left.1, later left.2⟩⟩
  · rw [dropped, workers]
    refine h.deaths (Bool.eq_false_iff.mpr fun cancelled => ?_)
    cases open'.symm.trans (later cancelled)

/-- What a worker has is noted as taken by it. -/
theorem Ledger.taken {tasks : List (Task σ ω)} (ledger : Ledger tasks s) {j : Job σ ω}
    (here : s.workers[w]? = some phase) (has : phase.job? = some j) : .taken w j.index ∈ s.log := by
  have held : (j.index, .held w phase) ∈ s.places := mem_places.mpr ⟨here, j, has, rfl⟩
  obtain ⟨t, -, told⟩ := ledger.stories _ _ held
  refine mem_of_mem_history (?_ : _ ∈ history s.log j.index)
  generalize history s.log j.index = story at told ⊢
  cases told <;> simp

theorem orderly_of_run {deadline : Option Nat} {tasks : List (Task σ ω)} {poolSize : Nat}
    {world : ω} {events : List Event} {s : State σ ω}
    (run : (start tasks poolSize world).after? deadline events = some s) : Orderly s := by
  refine after?_induct (p := fun _ s => Orderly s) (orderly_start tasks poolSize world) ?_
    events s run
  intro _ _ mid s run h step
  cases step with
  | work here move => exact h.move here (fun j has => (ledger_of_run run).taken here has) move
  | tick => exact h.of_driver h.cancelled id rfl rfl (fun _ => id) rfl
  | complete driver | late driver | wait driver | expire driver | disconnect driver =>
    have open' := h.cancelled
    rw [driver] at open'
    exact h.of_driver open' id rfl rfl (fun _ => id) rfl
  | receive driver =>
    have open' := h.cancelled
    rw [driver] at open'
    exact h.of_driver open' id rfl rfl (fun _ => List.mem_cons_of_mem _) rfl
  | cancel => exact h.of_driver rfl (fun _ => rfl) rfl rfl (fun _ => List.mem_cons_of_mem _) rfl
  | answer driver =>
    have closed := h.cancelled
    rw [driver] at closed
    exact h.of_driver closed id rfl rfl (fun _ => id) rfl

/-! ### Workers that never die -/

/-- What a worker has is a task of the batch. -/
theorem Ledger.task_mem {tasks : List (Task σ ω)} (ledger : Ledger tasks s) {j : Job σ ω}
    (here : s.workers[w]? = some phase) (has : phase.job? = some j) : j.task ∈ tasks := by
  have held : (j.index, .held w phase) ∈ s.places := mem_places.mpr ⟨here, j, has, rfl⟩
  obtain ⟨t, get, told⟩ := ledger.stories _ _ held
  have same : j.task = t := by
    generalize j.index = index, history s.log j.index = story at told
    cases told <;> cases has <;> rfl
  exact same ▸ List.mem_of_getElem? get

/-- If no worker is lost with its job, none of them is dead after the move. -/
theorem Move.alive (move : Move s w phase s')
    (sturdy : ∀ j, phase.job? = some j → j.task.lost = false ∧ j.task.lostBehind = false)
    (alive : ∀ p ∈ s.workers, p.isDead = false) : ∀ p ∈ s'.workers, p.isDead = false := by
  cases move with
  | die lost => cases (sturdy _ rfl).1.symm.trans lost
  | dieBehind lost => cases (sturdy _ rfl).2.symm.trans lost
  | _ =>
    intro p mem
    rcases List.mem_or_eq_of_mem_set mem with mem | rfl
    · exact alive p mem
    · rfl

/-- If no task costs the worker that has it, no worker dies. -/
theorem alive_of_run {deadline : Option Nat} {tasks : List (Task σ ω)} {poolSize : Nat} {world : ω}
    {events : List Event} {s : State σ ω}
    (sturdy : ∀ t ∈ tasks, t.lost = false ∧ t.lostBehind = false)
    (run : (start tasks poolSize world).after? deadline events = some s) :
    ∀ p ∈ s.workers, p.isDead = false := by
  refine after?_induct (p := fun _ s => ∀ p ∈ s.workers, p.isDead = false) ?_ ?_ events s run
  · intro p mem
    rw [List.eq_of_mem_replicate mem]
    rfl
  · intro _ _ mid s run alive step
    cases step with
    | work here move =>
      exact move.alive (fun j has => sturdy _ ((ledger_of_run run).task_mem here has)) alive
    | _ => exact alive

/-! ### Nobody left -/

/-- Nobody is left to send anything, and nothing is left to receive. If some worker has stopped and
not died, the queue is empty, and the dropped jobs are those of the workers that died, one for each
of them. -/
structure Forsaken (s : State σ ω) : Prop where
  channel : s.channel = []
  gone : ∀ p ∈ s.workers, p.isGone = true
  stopped : .stopped ∈ s.workers → s.queue = []
  graves : ∀ i, .dropped i ∈ s.log → ∃ w, .taken w i ∈ s.log ∧ s.workers[w]? = some .died
  deaths : (droppedIndices s.log).length = s.workers.countP Worker.isDead

theorem Orderly.forsaken (h : Orderly s) (open' : s.cancelled = false) (channel : s.channel = [])
    (gone : ∀ p ∈ s.workers, p.isGone = true) : Forsaken s := by
  have never : ¬ s.cancelled = true := Bool.eq_false_iff.mp open'
  have queue := fun stopped => (h.stopped stopped).resolve_right never
  refine ⟨channel, gone, queue, fun i dropped => ?_, h.deaths open'⟩
  obtain ⟨w, p, taken, there, rfl | ⟨-, cancelled⟩⟩ := h.graves i dropped
  · exact ⟨w, taken, there⟩
  · exact absurd cancelled never

/-- A pool that is forsaken stays so. -/
theorem Forsaken.step {deadline : Option Nat} {e : Event} (h : Forsaken s)
    (step : Transition deadline s e s') : Forsaken s' := by
  cases step with
  | work here move =>
    cases move.isGone.symm.trans (h.gone _ (List.mem_of_getElem? here))
  | receive driver channel => cases h.channel.symm.trans channel
  | cancel =>
    refine ⟨h.channel, h.gone, h.stopped, fun i dropped => ?_, h.deaths⟩
    obtain ⟨w, taken, there⟩ := h.graves i ((List.mem_cons.mp dropped).resolve_left (by simp))
    exact ⟨w, List.mem_cons_of_mem _ taken, there⟩
  | tick | complete | late | wait | expire | disconnect | answer =>
    exact ⟨h.channel, h.gone, h.stopped, h.graves, h.deaths⟩

theorem Forsaken.of_run {deadline : Option Nat} {events : List Event} (h : Forsaken s)
    (run : s.after? deadline events = some s') : Forsaken s' :=
  after?_induct (p := fun _ s => Forsaken s) h (fun _ _ _ _ _ forsaken step => forsaken.step step)
    events s' run

/-- A driver that stopped without regard to the deadline has all reports, or the pool is
forsaken. -/
theorem settled_of_run {deadline : Option Nat} {tasks : List (Task σ ω)} {poolSize : Nat}
    {world : ω} {events : List Event} {s : State σ ω}
    (run : (start tasks poolSize world).after? deadline events = some s)
    (stopped : s.driver.stopped? = some false) : s.collector.outstanding = 0 ∨ Forsaken s := by
  have opening := opening_start tasks poolSize world
  have counts := (collected_of_opening opening run).counts
  cases (ended_of_run opening events s run).2 false stopped with
  | full _ _ _ filled => exact .inl (counts.outstanding_eq_zero_iff.mpr filled)
  | @nobody mid moment driver _ _ channel gone =>
    -- the pool is forsaken at the moment at which the driver sees that nobody is left
    obtain ⟨_, rest⟩ := moment.through.leads run
    obtain ⟨before, _, _, reached⟩ := moment
    have orderly := orderly_of_run reached
    have open' : mid.cancelled = false := by
      rw [orderly.cancelled, driver]
      rfl
    exact .inr ((orderly.forsaken open' channel gone).of_run rest)

end State

end SmokeTest.Pool
