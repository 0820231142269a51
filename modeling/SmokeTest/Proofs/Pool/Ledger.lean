/-
Where the jobs of a pool are.

Every job is in exactly one place: in the queue, with one worker, in the channel, with the driver,
or dropped. An event moves at most one job on, and it adds notes on no other job.

* `State.mem_places` — where the jobs are, read off the state;
* `Transition.advance` — an event moves at most one job on, and adds notes on this one only;
* `Ledger` — each index is in one place, and the notes on it tell how it came there;
* `ledger_of_run` — the ledger is in order after every run.

Design notes: the places form a multiset, so a job that moves on is one element replaced by another
and the order of the queue, the workers and the channel plays no part.
-/
import Mathlib.Algebra.Order.Group.Multiset
import Mathlib.Data.Multiset.Range
import Mathlib.Tactic.Abel
import SmokeTest.Proofs.Pool.Story
import SmokeTest.Proofs.Pool.Transition

namespace SmokeTest.Pool

variable {σ ω : Type}

/-! ### The places of a state -/

/-- The place of the job of a worker, if it has one. -/
def Worker.place (w : Nat) (phase : Worker σ ω) : Multiset (Nat × Place σ ω) :=
  match phase.job? with
  | some j => {(j.index, .held w phase)}
  | none => 0

/-- The places of the jobs of the workers, who are numbered from `w` on. -/
def heldFrom (w : Nat) : List (Worker σ ω) → Multiset (Nat × Place σ ω)
  | [] => 0
  | phase :: rest => phase.place w + heldFrom (w + 1) rest

/-- The place of a job that the driver has received or that is dropped. -/
def Note.place? : Note → Option (Nat × Place σ ω)
  | .received i o => some (i, .received o)
  | .dropped i => some (i, .dropped)
  | _ => none

namespace State

/-- The places of all jobs, each with the index of its job. -/
def places (s : State σ ω) : Multiset (Nat × Place σ ω) :=
  Multiset.ofList (s.queue.map fun j => (j.index, .queued j)) + heldFrom 0 s.workers +
    Multiset.ofList (s.channel.map fun c => (c.1, .posted c.2)) +
    Multiset.ofList (s.log.filterMap Note.place?)

end State

/-- A worker that moves on takes its own place along and leaves the others alone. -/
theorem heldFrom_set {workers : List (Worker σ ω)} {w : Nat} {phase : Worker σ ω} (k : Nat)
    (here : workers[w]? = some phase) :
    ∃ others, heldFrom k workers = phase.place (k + w) + others ∧
      ∀ phase' : Worker σ ω, heldFrom k (workers.set w phase') = phase'.place (k + w) + others := by
  induction workers generalizing w k with
  | nil => simp at here
  | cons first rest ih =>
    cases w with
    | zero =>
      simp only [List.getElem?_cons_zero, Option.some.injEq] at here
      subst here
      exact ⟨heldFrom (k + 1) rest, rfl, fun _ => rfl⟩
    | succ w =>
      obtain ⟨others, hold, hset⟩ := ih (k + 1) (by simpa using here)
      -- the rest is numbered from the next number on
      have hk : k + 1 + w = k + (w + 1) := by omega
      rw [hk] at hold hset
      refine ⟨first.place k + others, ?_, fun phase' => ?_⟩
      · rw [heldFrom, hold]
        abel
      · rw [List.set_cons_succ, heldFrom, hset phase']
        abel

theorem heldFrom_replicate_idle (k n : Nat) :
    heldFrom k (List.replicate n (Worker.idle : Worker σ ω)) = 0 := by
  induction n generalizing k with
  | zero => rfl
  | succ n ih => rw [List.replicate_succ, heldFrom, ih, Worker.place, Worker.job?, add_zero]

/-- The jobs in the hands of the workers, who are numbered from `k` on. -/
theorem mem_heldFrom {workers : List (Worker σ ω)} {i : Nat} {p : Place σ ω} (k : Nat) :
    (i, p) ∈ heldFrom k workers ↔ ∃ w phase, workers[w]? = some phase ∧
      (∃ j, phase.job? = some j ∧ j.index = i) ∧ p = .held (k + w) phase := by
  induction workers generalizing k with
  | nil => simp [heldFrom]
  | cons first rest ih =>
    have next : ∀ w, k + 1 + w = k + (w + 1) := by omega
    rw [heldFrom, Multiset.mem_add, ih]
    constructor
    · rintro (mem | ⟨w, phase, here, has, rfl⟩)
      · cases job : first.job? with
        | none => simp [Worker.place, job] at mem
        | some j =>
          rw [Worker.place, job, Multiset.mem_singleton] at mem
          cases mem
          exact ⟨0, first, rfl, ⟨j, job, rfl⟩, rfl⟩
      · exact ⟨w + 1, phase, here, has, by rw [next]⟩
    · rintro ⟨w, phase, here, ⟨j, has, rfl⟩, rfl⟩
      cases w with
      | zero =>
        cases here
        rw [Worker.place, has]
        exact .inl (Multiset.mem_singleton_self _)
      | succ w => exact .inr ⟨w, phase, here, ⟨j, has, rfl⟩, by rw [next]⟩

theorem mem_filterMap_place? {log : List Note} {i : Nat} {p : Place σ ω} :
    (i, p) ∈ log.filterMap Note.place? ↔
      (∃ o, .received i o ∈ log ∧ p = .received o) ∨ (.dropped i ∈ log ∧ p = .dropped) := by
  rw [List.mem_filterMap]
  constructor
  · rintro ⟨n, mem, same⟩
    cases n with
    | received =>
      cases same
      exact .inl ⟨_, mem, rfl⟩
    | dropped =>
      cases same
      exact .inr ⟨mem, rfl⟩
    | _ => cases same
  · rintro (⟨o, mem, rfl⟩ | ⟨mem, rfl⟩)
    · exact ⟨_, mem, rfl⟩
    · exact ⟨_, mem, rfl⟩

/-- Where the jobs are, read off the state. -/
theorem State.mem_places {s : State σ ω} {i : Nat} {p : Place σ ω} :
    (i, p) ∈ s.places ↔
      match p with
      | .queued j => j ∈ s.queue ∧ j.index = i
      | .held w phase => s.workers[w]? = some phase ∧ ∃ j, phase.job? = some j ∧ j.index = i
      | .posted o => (i, o) ∈ s.channel
      | .received o => .received i o ∈ s.log
      | .dropped => .dropped i ∈ s.log := by
  simp only [State.places, Multiset.mem_add, Multiset.mem_coe, mem_heldFrom, mem_filterMap_place?,
    List.mem_map]
  cases p <;> simp

/-- Nothing is in a channel that is empty. -/
theorem State.not_posted {s : State σ ω} (channel : s.channel = []) {i : Nat} {o : Outcome} :
    (i, .posted o) ∉ s.places := by
  intro mem
  have posted : (i, o) ∈ s.channel := mem_places.mp mem
  rw [channel] at posted
  cases posted

/-! ### What an event moves -/

namespace State

/-- The job with the index moves on from one place to another. The notes that are added are on this
job. -/
structure Advance (s s' : State σ ω) (index : Nat) (here there : Place σ ω)
    (added : List Note) : Prop where
  places : ∃ others, s.places = (index, here) ::ₘ others ∧ s'.places = (index, there) ::ₘ others
  history : ∀ i, history s'.log i = history s.log i ++ if i = index then added else []
  hop : Hop s.world s'.world index here there added

/-- No job moves, and the world stays as it is. -/
structure Rest (s s' : State σ ω) : Prop where
  places : s'.places = s.places
  history : ∀ i, history s'.log i = history s.log i
  world : s'.world = s.world

section Places

variable {s s' : State σ ω} {w : Nat} {phase phase' : Worker σ ω} {j : Job σ ω}

/-- The places of the jobs that no worker has. -/
def unheld (s : State σ ω) : Multiset (Nat × Place σ ω) :=
  Multiset.ofList (s.queue.map fun j => (j.index, .queued j)) +
    Multiset.ofList (s.channel.map fun c => (c.1, .posted c.2)) +
    Multiset.ofList (s.log.filterMap Note.place?)

theorem places_eq (s : State σ ω) : s.places = heldFrom 0 s.workers + s.unheld := by
  rw [places, unheld]
  abel

/-- When one worker moves on, all jobs are where they were but the one that is told apart in what
this worker has and what no worker has. -/
theorem places_of_worker {index : Nat} {p p' : Place σ ω} {rest : Multiset (Nat × Place σ ω)}
    (here : s.workers[w]? = some phase) (workers : s'.workers = s.workers.set w phase')
    (before : phase.place w + s.unheld = (index, p) ::ₘ rest)
    (after : phase'.place w + s'.unheld = (index, p') ::ₘ rest) :
    ∃ others, s.places = (index, p) ::ₘ others ∧ s'.places = (index, p') ::ₘ others := by
  obtain ⟨others, hold, hset⟩ := heldFrom_set 0 here
  rw [Nat.zero_add] at hold hset
  refine ⟨others + rest, ?_, ?_⟩
  · rw [places_eq, hold, add_right_comm, before, Multiset.cons_add, add_comm rest]
  · rw [places_eq, workers, hset, add_right_comm, after, Multiset.cons_add, add_comm rest]

theorem place_of_job? (has : phase.job? = some j) (others : Multiset (Nat × Place σ ω)) :
    phase.place w + others = (j.index, .held w phase) ::ₘ others := by
  rw [Worker.place, has, Multiset.singleton_add]

theorem place_of_free (free : phase.job? = none) (others : Multiset (Nat × Place σ ω)) :
    phase.place w + others = others := by
  rw [Worker.place, free, zero_add]

/-- A worker goes on with its job. -/
theorem places_of_held (here : s.workers[w]? = some phase) (has : phase.job? = some j)
    (keeps : phase'.job? = some j) (queue : s'.queue = s.queue)
    (workers : s'.workers = s.workers.set w phase') (channel : s'.channel = s.channel)
    (log : s'.log.filterMap (Note.place? : Note → Option (Nat × Place σ ω)) =
      s.log.filterMap Note.place?) :
    ∃ others, s.places = (j.index, .held w phase) ::ₘ others ∧
      s'.places = (j.index, .held w phase') ::ₘ others := by
  have same : s'.unheld = s.unheld := by rw [unheld, unheld, queue, channel, log]
  exact places_of_worker here workers (place_of_job? has _) (same ▸ place_of_job? keeps _)

/-- A worker gives up its job. -/
theorem places_of_dropped (here : s.workers[w]? = some phase) (has : phase.job? = some j)
    (free : phase'.job? = none) :
    ∃ others, s.places = (j.index, .held w phase) ::ₘ others ∧
      ((s.setWorker w phase').note (.dropped j.index)).places = (j.index, .dropped) ::ₘ others := by
  refine places_of_worker here rfl (place_of_job? has _) ?_
  rw [place_of_free free, unheld, unheld]
  simp only [setWorker, note, List.filterMap_cons, Note.place?, ← Multiset.cons_coe,
    Multiset.add_cons]

/-- A worker that has no job takes the first one of the queue. -/
theorem places_of_taken {rest : List (Job σ ω)} (here : s.workers[w]? = some .idle)
    (queue : s.queue = j :: rest) :
    ∃ others, s.places = (j.index, .queued j) ::ₘ others ∧
      (({ s with queue := rest }.setWorker w (.holding j)).note (.taken w j.index)).places =
        (j.index, .held w (.holding j)) ::ₘ others := by
  refine places_of_worker here rfl ?_ (place_of_job? rfl _)
  rw [place_of_free rfl, unheld, unheld]
  simp only [setWorker, note, queue, List.map_cons, List.filterMap_cons, Note.place?,
    ← Multiset.cons_coe, Multiset.cons_add]

/-- A worker puts its report into the channel. -/
theorem places_of_sent {o : Outcome} (here : s.workers[w]? = some (.reporting j o)) :
    ∃ others, s.places = (j.index, .held w (.reporting j o)) ::ₘ others ∧
      (({ s with channel := s.channel ++ [(j.index, o)] }.setWorker w .idle).note
        (.sent j.index o)).places = (j.index, .posted o) ::ₘ others := by
  refine places_of_worker here rfl (place_of_job? rfl _) ?_
  rw [place_of_free rfl, unheld, unheld]
  simp only [setWorker, note, List.filterMap_cons, Note.place?, List.map_append, List.map_cons,
    List.map_nil, ← Multiset.coe_add, Multiset.coe_singleton, ← Multiset.singleton_add]
  abel

/-- The driver receives the oldest report. -/
theorem places_of_received {index : Nat} {o : Outcome} {rest : List (Nat × Outcome)}
    (channel : s.channel = (index, o) :: rest) (queue : s'.queue = s.queue)
    (workers : s'.workers = s.workers) (channel' : s'.channel = rest)
    (log : s'.log = .received index o :: s.log) :
    ∃ others, s.places = (index, .posted o) ::ₘ others ∧
      s'.places = (index, .received o) ::ₘ others := by
  refine ⟨heldFrom 0 s.workers + (Multiset.ofList (s.queue.map fun j => (j.index, .queued j)) +
    Multiset.ofList (rest.map fun c => (c.1, .posted c.2)) +
    Multiset.ofList (s.log.filterMap Note.place?)), ?_, ?_⟩
  · rw [places_eq, unheld, channel, List.map_cons, ← Multiset.cons_coe, Multiset.add_cons,
      Multiset.cons_add, Multiset.add_cons]
  · rw [places_eq, unheld, queue, workers, channel', log, List.filterMap_cons, Note.place?,
      ← Multiset.cons_coe, Multiset.add_cons, Multiset.add_cons]

end Places

/-- A note on one job is added to the history of this job alone. -/
theorem history_note {s : State σ ω} {n : Note} {index : Nat}
    (on : ∀ i, n.isOn i = (index == i)) (i : Nat) :
    history (s.note n).log i = history s.log i ++ if i = index then [n] else [] := by
  rw [note, history_cons, on]
  by_cases h : i = index
  · simp [h]
  · simp [h, Ne.symm h]

/-- Without a new note every history stays as it is. -/
theorem history_same {s s' : State σ ω} {index : Nat} (log : s'.log = s.log) (i : Nat) :
    history s'.log i = history s.log i ++ if i = index then [] else [] := by
  simp [log]

/-- A move of a worker moves its job on, or the first job of the queue to the worker, or it ends a
worker without a job. -/
theorem Move.advance {s s' : State σ ω} {w : Nat} {phase : Worker σ ω}
    (here : s.workers[w]? = some phase) (move : Move s w phase s') :
    Rest s s' ∨ ∃ index p p' added, Advance s s' index p p' added := by
  -- each move keeps, takes, sends or gives up one job
  cases move with
  | stop queue =>
    obtain ⟨others, hold, hset⟩ := heldFrom_set 0 here
    refine .inl ⟨?_, fun _ => rfl, rfl⟩
    simp only [places, setWorker, hold, hset, Worker.place, Worker.job?]
  | take queue =>
    exact .inr ⟨_, _, _, _, places_of_taken here queue, history_note fun _ => rfl, .take w _⟩
  | skip =>
    exact .inr ⟨_, _, _, _, places_of_dropped here rfl rfl, history_note fun _ => rfl, .skip w _⟩
  | clear =>
    exact .inr ⟨_, _, _, _, places_of_held here rfl rfl rfl rfl rfl rfl, history_same rfl,
      .clear w _⟩
  | die =>
    exact .inr ⟨_, _, _, _, places_of_dropped here rfl rfl, history_note fun _ => rfl, .die w _⟩
  | start =>
    exact .inr ⟨_, _, _, _, places_of_held here rfl rfl rfl rfl rfl rfl, history_same rfl,
      .start w _ s.clock⟩
  | finish =>
    exact .inr ⟨_, _, _, _, places_of_held here rfl rfl rfl rfl rfl rfl, history_same rfl,
      .finish w _ _ _⟩
  | enter reply =>
    subst reply
    exact .inr ⟨_, _, _, _, places_of_held here rfl rfl rfl rfl rfl rfl,
      history_note fun _ => rfl, .enter w _ _ _ _ _ _⟩
  | pass fault =>
    exact .inr ⟨_, _, _, _, places_of_held here rfl rfl rfl rfl rfl rfl,
      history_note fun _ => rfl, .pass w _ _ _ _ _ _ fault⟩
  | fail fault =>
    exact .inr ⟨_, _, _, _, places_of_held here rfl rfl rfl rfl rfl rfl,
      history_note fun _ => rfl, .fail w _ _ _ _ _ _ _ fault⟩
  | dieBehind =>
    exact .inr ⟨_, _, _, _, places_of_dropped here rfl rfl, history_note fun _ => rfl, .lose w _ _⟩
  | discard =>
    exact .inr ⟨_, _, _, _, places_of_dropped here rfl rfl, history_note fun _ => rfl, .lose w _ _⟩
  | send =>
    exact .inr ⟨_, _, _, _, places_of_sent here, history_note fun _ => rfl, .send w _ _⟩

/-- An event moves at most one job on. -/
theorem Transition.advance {deadline : Option Nat} {s s' : State σ ω} {e : Event}
    (step : Transition deadline s e s') :
    Rest s s' ∨ ∃ index p p' added, Advance s s' index p p' added := by
  cases step with
  | work here move => exact move.advance here
  | receive driver channel =>
    exact .inr ⟨_, _, _, _, places_of_received channel rfl rfl rfl rfl, history_note fun _ => rfl,
      .receive _ _⟩
  | cancel =>
    refine .inl ⟨rfl, fun i => ?_, rfl⟩
    rw [note, history_cons, Note.isOn]
    simp
  | tick | complete | late | wait | expire | disconnect | answer =>
    exact .inl ⟨rfl, fun _ => rfl, rfl⟩

/-! ### The ledger -/

/-- Each index is in exactly one place, and the notes on it are those of a job of its task in this
place. -/
structure Ledger (tasks : List (Task σ ω)) (s : State σ ω) : Prop where
  indices : s.places.map Prod.fst = Multiset.range tasks.length
  stories : ∀ index p, (index, p) ∈ s.places →
    ∃ t, tasks[index]? = some t ∧ Told t index p (history s.log index)

theorem map_index_jobs (tasks : List (Task σ ω)) :
    (jobs tasks).map Job.index = List.range tasks.length := by
  rw [jobs, List.map_map, List.range_eq_range']
  exact List.zipIdx_map_snd 0 tasks

theorem getElem?_of_mem_jobs {tasks : List (Task σ ω)} {j : Job σ ω} (h : j ∈ jobs tasks) :
    tasks[j.index]? = some j.task := by
  rw [jobs, List.mem_map] at h
  obtain ⟨⟨task, index⟩, mem, rfl⟩ := h
  exact List.mk_mem_zipIdx_iff_getElem?.mp mem

/-- At first every job is in the queue. -/
theorem places_start (tasks : List (Task σ ω)) (poolSize : Nat) (world : ω) :
    (start tasks poolSize world).places =
      Multiset.ofList ((jobs tasks).map fun j => (j.index, .queued j)) := by
  simp [State.places, start, heldFrom_replicate_idle]

theorem ledger_start (tasks : List (Task σ ω)) (poolSize : Nat) (world : ω) :
    Ledger tasks (start tasks poolSize world) := by
  constructor
  · rw [places_start, Multiset.map_coe, List.map_map]
    exact congrArg Multiset.ofList (map_index_jobs tasks)
  · intro index p h
    rw [places_start, Multiset.mem_coe, List.mem_map] at h
    obtain ⟨j, mem, same⟩ := h
    cases same
    exact ⟨j.task, getElem?_of_mem_jobs mem, .queued⟩

variable {tasks : List (Task σ ω)} {s s' : State σ ω}

theorem Ledger.nodup (h : Ledger tasks s) : (s.places.map Prod.fst).Nodup :=
  h.indices ▸ Multiset.nodup_range _

/-- No index is in two places. -/
theorem Ledger.unique (h : Ledger tasks s) {index : Nat} {p p' : Place σ ω}
    (hp : (index, p) ∈ s.places) (hp' : (index, p') ∈ s.places) : p = p' := by
  have same := Multiset.inj_on_of_nodup_map h.nodup _ hp _ hp' rfl
  exact (Prod.mk.inj same).2

/-- Only the indices of tasks are in some place. -/
theorem Ledger.lt_of_mem (h : Ledger tasks s) {index : Nat} {p : Place σ ω}
    (mem : (index, p) ∈ s.places) : index < tasks.length := by
  rw [← Multiset.mem_range, ← h.indices]
  exact Multiset.mem_map.mpr ⟨_, mem, rfl⟩

/-- Every index is in some place. -/
theorem Ledger.exists_place (h : Ledger tasks s) {index : Nat} (lt : index < tasks.length) :
    ∃ p, (index, p) ∈ s.places := by
  rw [← Multiset.mem_range, ← h.indices, Multiset.mem_map] at lt
  obtain ⟨⟨_, p⟩, mem, rfl⟩ := lt
  exact ⟨p, mem⟩

/-- A job is in one of the places only. -/
theorem Ledger.ne_of_mem_others (h : Ledger tasks s) {index i : Nat} {p q : Place σ ω}
    {others : Multiset (Nat × Place σ ω)} (split : s.places = (index, p) ::ₘ others)
    (mem : (i, q) ∈ others) : i ≠ index := by
  rintro rfl
  have nodup := h.nodup
  rw [split, Multiset.map_cons] at nodup
  exact (Multiset.nodup_cons.mp nodup).1 (Multiset.mem_map.mpr ⟨_, mem, rfl⟩)

theorem Ledger.advance {index : Nat} {p p' : Place σ ω} {added : List Note}
    (h : Ledger tasks s) (step : Advance s s' index p p' added) : Ledger tasks s' := by
  obtain ⟨others, before, after⟩ := step.places
  constructor
  · rw [after, ← h.indices, before, Multiset.map_cons, Multiset.map_cons]
  · intro i q mem
    rw [after, Multiset.mem_cons] at mem
    rcases mem with same | mem
    · cases same
      obtain ⟨t, get, told⟩ := h.stories index p (before ▸ Multiset.mem_cons_self _ _)
      refine ⟨t, get, ?_⟩
      rw [step.history, if_pos rfl]
      exact told.hop step.hop
    · -- the job that moves is nowhere else, so no other place has its story changed
      have other : i ≠ index := h.ne_of_mem_others before mem
      rw [step.history, if_neg other, List.append_nil]
      exact h.stories i q (before ▸ Multiset.mem_cons_of_mem mem)

theorem Ledger.rest (h : Ledger tasks s) (step : Rest s s') : Ledger tasks s' := by
  constructor
  · rw [step.places, h.indices]
  · intro i q mem
    rw [step.history]
    exact h.stories i q (step.places ▸ mem)

/-- The ledger is in order after every run. -/
theorem ledger_of_run {deadline : Option Nat} {poolSize : Nat} {world : ω} {events : List Event}
    (run : (start tasks poolSize world).after? deadline events = some s) : Ledger tasks s := by
  refine after?_induct (p := fun _ s => Ledger tasks s) (ledger_start tasks poolSize world) ?_
    events s run
  intro _ _ mid s _ ledger step
  rcases step.advance with rest | ⟨_, _, _, _, advance⟩
  · exact ledger.rest rest
  · exact ledger.advance advance

/-- There are no notes on a job that there is not. -/
theorem history_of_run {deadline : Option Nat} {poolSize : Nat} {world : ω} {events : List Event}
    (run : (start tasks poolSize world).after? deadline events = some s) {i : Nat}
    (none_there : tasks.length ≤ i) : history s.log i = [] := by
  refine after?_induct (p := fun _ s => history s.log i = []) rfl ?_ events s run
  intro _ _ mid s run ih step
  rcases step.advance with rest | ⟨index, p, _, _, advance⟩
  · rw [rest.history, ih]
  · obtain ⟨others, before, _⟩ := advance.places
    have lt := (ledger_of_run run).lt_of_mem (before ▸ Multiset.mem_cons_self (index, p) others)
    rw [advance.history, ih, if_neg (by omega), List.append_nil]

/-! ### Reports sent and received -/

/-- What was sent is in the channel, or the driver has received it. -/
theorem Ledger.sent (h : Ledger tasks s) {index : Nat} {o : Outcome} (lt : index < tasks.length)
    (sent : .sent index o ∈ s.log) :
    (index, .posted o) ∈ s.places ∨ (index, .received o) ∈ s.places := by
  obtain ⟨p, mem⟩ := h.exists_place lt
  obtain ⟨t, -, told⟩ := h.stories index p mem
  rcases told.of_sent (mem_history (beq_self_eq_true index) sent) with rfl | rfl
  · exact .inl mem
  · exact .inr mem

/-- What the driver has received for an index is the report of its task: a worker took the job,
went through the steps behind the report, and sent it, and nobody else has had the job. -/
theorem Ledger.received (h : Ledger tasks s) {index : Nat} {o : Outcome}
    (received : .received index o ∈ s.log) :
    ∃ t w notes, tasks[index]? = some t ∧ t.Reports index notes o ∧
      history s.log index = .taken w index :: notes ++ [.sent index o, .received index o] := by
  have here : (index, .received o) ∈ s.places := mem_places.mpr received
  obtain ⟨t, get, told⟩ := h.stories index _ here
  generalize history s.log index = story at told ⊢
  cases told with
  | received w report => exact ⟨t, w, _, get, report, rfl⟩

end State

end SmokeTest.Pool
