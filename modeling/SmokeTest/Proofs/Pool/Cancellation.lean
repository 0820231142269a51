/-
What still happens to a pool after it is cancelled.

A worker looks at the cancelled flag when it has taken a job and has not begun it. So a worker that
looked before the flag was set may begin this one job afterwards, and nobody begins another one.

* `Worker.poised?` — the job that a worker begins next whatever the flag says;
* `Barred` — nobody can begin the job without looking at the flag;
* `barred_of_run` — once the pool is cancelled, a job that is barred stays so;
* `Told.stage` — a job is barred, or some worker is poised to begin it, or it has begun;
* `Stemmed`, `stemmed_of_run` — what begins after the flag was set, and what never does.

Design notes: `Barred` looks at one job and needs no ledger, so its step lemma is about a single
worker. The ledger comes in once, at the moment at which the flag is found set, to see that a job
which is not barred there has begun or is in the hands of a worker that is poised.
-/
import SmokeTest.Proofs.Pool.Conservation

namespace SmokeTest.Pool

variable {σ ω : Type}

/-! ### Jobs that begin -/

/-- The job that a worker begins next, if it has seen that the pool is not cancelled and has not
begun yet. -/
def Worker.poised? : Worker σ ω → Option (Job σ ω)
  | cleared j => some j
  | ready j _ left _ => if left = Step.all then some j else none
  | idle | holding _ | inside .. | reporting .. | stopped | died => none

theorem Worker.job?_of_poised? {phase : Worker σ ω} {j : Job σ ω} (h : phase.poised? = some j) :
    phase.job? = some j := by
  cases phase with
  | cleared => exact h
  | ready j' started left state =>
    rw [poised?] at h
    split at h
    · exact h
    · cases h
  | _ => cases h

/-- The indices of the jobs that have entered their first step, in the order in which they did. -/
def begunIndices (log : List Note) : List Nat :=
  log.reverse.filterMap fun
    | .entered i .prepare => some i
    | _ => none

theorem mem_begunIndices {log : List Note} {i : Nat} :
    i ∈ begunIndices log ↔ .entered i .prepare ∈ log := by
  rw [begunIndices, List.mem_filterMap]
  constructor
  · rintro ⟨n, mem, same⟩
    cases n with
    | entered k step => cases step <;> simp_all
    | _ => cases same
  · exact fun mem => ⟨_, List.mem_reverse.mpr mem, rfl⟩

theorem mem_stepsEntered {log : List Note} {i : Nat} {step : Step} :
    step ∈ stepsEntered log i ↔ .entered i step ∈ log := by
  rw [stepsEntered, List.mem_filterMap]
  constructor
  · rintro ⟨n, mem, same⟩
    cases n <;> simp_all
  · exact fun mem => ⟨_, List.mem_reverse.mpr mem, if_pos rfl⟩

/-- A job has begun as often as it has entered the first step. -/
theorem count_begunIndices (log : List Note) (i : Nat) :
    (begunIndices log).count i = (stepsEntered log i).count .prepare := by
  rw [begunIndices, stepsEntered]
  induction log.reverse with
  | nil => rfl
  | cons n rest ih =>
    cases n with
    | entered k step =>
      by_cases same : k = i <;> cases step <;> simp [same, ih]
    | _ => exact ih

/-! ### Jobs that are barred -/

namespace State

variable {s s' mid : State σ ω} {w i : Nat} {phase : Worker σ ω}

/-- The job has entered no step, and a worker that has it has not looked at the flag yet. -/
structure Barred (s : State σ ω) (i : Nat) : Prop where
  untouched : ∀ step, .entered i step ∉ s.log
  unlooked : ∀ phase ∈ s.workers, ∀ j, phase.job? = some j → j.index = i → phase = .holding j

/-- A worker that has looked at the flag has another job. -/
theorem Barred.ne {j : Job σ ω} (h : s.Barred i) (here : s.workers[w]? = some phase)
    (has : phase.job? = some j) (looked : phase ≠ .holding j) : j.index ≠ i :=
  fun same => looked (h.unlooked phase (List.mem_of_getElem? here) j has same)

/-- A job stays barred if the worker that moves comes to have nothing, something else, or a job that
it has just taken. -/
theorem Barred.set {next : Worker σ ω} (h : s.Barred i)
    (workers : s'.workers = s.workers.set w next)
    (log : ∀ step, .entered i step ∈ s'.log → .entered i step ∈ s.log)
    (has : ∀ j, next.job? = some j → j.index = i → next = .holding j) : s'.Barred i := by
  refine ⟨fun step mem => h.untouched step (log step mem), fun phase mem => ?_⟩
  rw [workers] at mem
  rcases List.mem_or_eq_of_mem_set mem with mem | rfl
  · exact h.unlooked phase mem
  · exact has

/-- The same for a worker that goes on with a job which it has looked at the flag for. -/
theorem Barred.goOn {next : Worker σ ω} {j : Job σ ω} (h : s.Barred i) (other : j.index ≠ i)
    (workers : s'.workers = s.workers.set w next)
    (log : ∀ step, .entered i step ∈ s'.log → .entered i step ∈ s.log)
    (keeps : next.job? = some j) : s'.Barred i := by
  refine h.set workers log fun j' has same => ?_
  cases keeps.symm.trans has
  exact absurd same other

theorem Move.barred (h : s.Barred i) (here : s.workers[w]? = some phase)
    (cancelled : s.cancelled = true) (move : Move s w phase s') : s'.Barred i := by
  -- a note that is not on a step of the job entered changes nothing
  have other : ∀ {n : Note}, (∀ step, .entered i step ≠ n) →
      ∀ step, .entered i step ∈ n :: s.log → .entered i step ∈ s.log :=
    fun differs step mem => (List.mem_cons.mp mem).resolve_left (differs step)
  cases move with
  | clear open' => cases open'.symm.trans cancelled
  | stop => exact h.set rfl (fun _ => id) (fun _ has => by cases has)
  | take => exact h.set rfl (other fun _ => nofun) (fun j has _ => by cases has; rfl)
  | skip | die | dieBehind | discard | send =>
    exact h.set rfl (other fun _ => nofun) (fun _ has => by cases has)
  | start | finish => exact h.goOn (h.ne here rfl nofun) rfl (fun _ => id) rfl
  | pass | fail => exact h.goOn (h.ne here rfl nofun) rfl (other fun _ => nofun) rfl
  | enter =>
    have differs := h.ne here rfl nofun
    refine h.goOn differs rfl (other fun step same => ?_) rfl
    cases same
    exact differs rfl

theorem Transition.barred {deadline : Option Nat} {e : Event} (h : s.Barred i)
    (cancelled : s.cancelled = true) (step : Transition deadline s e s') : s'.Barred i := by
  cases step with
  | work here move => exact move.barred h here cancelled
  | receive | cancel =>
    refine ⟨fun step mem => h.untouched step ?_, h.unlooked⟩
    exact (List.mem_cons.mp mem).resolve_left nofun
  | tick | complete | late | wait | expire | disconnect | answer =>
    exact ⟨h.untouched, h.unlooked⟩

theorem Transition.cancelled {deadline : Option Nat} {e : Event}
    (cancelled : s.cancelled = true) (step : Transition deadline s e s') : s'.cancelled = true := by
  cases step with
  | work here move => rw [move.cancelled, cancelled]
  | cancel => rfl
  | tick | complete | late | wait | receive | expire | disconnect | answer => exact cancelled

/-- A pool that is cancelled stays so. -/
theorem cancelled_of_run {deadline : Option Nat} {events : List Event}
    (cancelled : mid.cancelled = true) (run : mid.after? deadline events = some s) :
    s.cancelled = true :=
  after?_induct (p := fun _ s => s.cancelled = true) cancelled
    (fun _ _ _ _ _ ih step => step.cancelled ih) events s run

/-- Once the pool is cancelled, a job that is barred stays so. -/
theorem barred_of_run {deadline : Option Nat} {events : List Event}
    (cancelled : mid.cancelled = true) (barred : mid.Barred i)
    (run : mid.after? deadline events = some s) : s.Barred i :=
  after?_induct (p := fun _ s => s.Barred i) barred
    (fun _ _ _ _ reached ih step => step.barred ih (cancelled_of_run cancelled reached))
    events s run

/-! ### What begins later -/

/-- The indices of the jobs that began after a state, in the order in which they did. -/
def begunSince (mid s : State σ ω) : List Nat :=
  (begunIndices s.log).drop (begunIndices mid.log).length

/-- What had begun is not forgotten. -/
theorem begunIndices_eq_append {deadline : Option Nat} {events : List Event}
    (run : mid.after? deadline events = some s) :
    begunIndices s.log = begunIndices mid.log ++ begunSince mid s := by
  obtain ⟨added, log⟩ := log_suffix_of_run run
  have split : begunIndices s.log = begunIndices mid.log ++ begunIndices added := by
    rw [← log, begunIndices, List.reverse_append, List.filterMap_append]
    rfl
  rw [begunSince, split, List.drop_left]

end State

/-! ### Where a job can be when the flag is found set -/

namespace Task

theorem begun_of_order {index : Nat} {before left : List Step} {step : Step} {notes : List Note}
    (order : before ++ step :: left = Step.all) :
    .entered index .prepare ∈ passage index before ++ .entered index step :: notes := by
  cases before with
  | nil =>
    cases order
    exact List.mem_cons_self
  | cons first rest =>
    obtain ⟨rfl, -⟩ := List.cons.inj order
    exact List.mem_cons_self

/-- What is reported is reported of a job that has begun. -/
theorem Reports.begun {t : Task σ ω} {index : Nat} {notes : List Note} {o : Outcome}
    (h : t.Reports index notes o) : .entered index .prepare ∈ notes := by
  cases h with
  | outcome => exact List.mem_cons_self
  | fault _ order => exact begun_of_order order

end Task

/-- A job in this place has not begun, and no worker that has it has looked at the flag. -/
structure Place.Unlooked (j : Job σ ω) (p : Place σ ω) (notes : List Note) : Prop where
  untouched : ∀ step, .entered j.index step ∉ notes
  held : ∀ w phase, p = .held w phase → phase = .holding j

/-- A worker is poised to begin the job, or it has begun, or nobody has looked at the flag for
it. -/
theorem Told.stage {t : Task σ ω} {index : Nat} {p : Place σ ω} {notes : List Note}
    (told : Told t index p notes) :
    (∃ w phase, p = .held w phase ∧ phase.poised? = some ⟨index, t⟩) ∨
      .entered index .prepare ∈ notes ∨ p.Unlooked ⟨index, t⟩ notes := by
  cases told with
  | queued => exact .inr (.inr ⟨fun _ => List.not_mem_nil, nofun⟩)
  | holding w =>
    refine .inr (.inr ⟨by simp, fun w phase same => ?_⟩)
    cases same
    rfl
  | lost w => exact .inr (.inr ⟨by simp, nofun⟩)
  | cleared w => exact .inl ⟨w, _, rfl, rfl⟩
  | @ready w before left state started order =>
    cases before with
    | nil => exact .inl ⟨w, _, rfl, if_pos order⟩
    | cons first rest =>
      obtain ⟨rfl, -⟩ := List.cons.inj order
      exact .inr (.inl (List.mem_cons_of_mem _ List.mem_cons_self))
  | inside w world started due order =>
    exact .inr (.inl (List.mem_cons_of_mem _ (Task.begun_of_order order)))
  | reporting w report => exact .inr (.inl (List.mem_cons_of_mem _ report.begun))
  | posted w report | received w report | unheard w report =>
    exact .inr (.inl (List.mem_cons_of_mem _ (List.mem_append_left _ report.begun)))

namespace State

variable {tasks : List (Task σ ω)} {s mid : State σ ω} {i : Nat}

/-- A job that nobody has looked at the flag for is barred. -/
theorem Ledger.barred (ledger : Ledger tasks s) {j : Job σ ω} {p : Place σ ω}
    (mem : (j.index, p) ∈ s.places) (unlooked : p.Unlooked j (history s.log j.index)) :
    s.Barred j.index := by
  refine ⟨fun step entered => unlooked.untouched step (mem_history (by simp [Note.isOn]) entered),
    fun phase there j' has same => ?_⟩
  -- the job is in one place only, so a worker that has it is the one in this place
  obtain ⟨w, here⟩ := List.getElem?_of_mem there
  have held : (j.index, .held w phase) ∈ s.places := mem_places.mpr ⟨here, j', has, same⟩
  have holding := unlooked.held w phase (ledger.unique mem held)
  subst holding
  cases has
  rfl

/-- Every job is in the hands of a worker that is poised to begin it, or has begun, or is barred. -/
theorem Ledger.stage (ledger : Ledger tasks s) (lt : i < tasks.length) :
    (∃ (w : Nat) (phase : Worker σ ω) (j : Job σ ω), s.workers[w]? = some phase ∧
        phase.poised? = some j ∧ j.index = i) ∨
      i ∈ begunIndices s.log ∨ s.Barred i := by
  obtain ⟨p, mem⟩ := ledger.exists_place lt
  obtain ⟨t, -, told⟩ := ledger.stories i p mem
  rcases told.stage with ⟨w, phase, rfl, poised⟩ | begun | unlooked
  · obtain ⟨here, -⟩ := mem_places.mp mem
    exact .inl ⟨w, phase, ⟨i, t⟩, here, poised, rfl⟩
  · exact .inr (.inl (mem_begunIndices.mpr (mem_of_mem_history begun)))
  · exact .inr (.inr (ledger.barred (j := ⟨i, t⟩) mem unlooked))

/-- A job in the queue is barred, and so is one whose worker has not looked at the flag. -/
theorem Ledger.barred_of_unlooked (ledger : Ledger tasks s) {j : Job σ ω}
    (unlooked : j ∈ s.queue ∨ .holding j ∈ s.workers) : s.Barred j.index := by
  obtain ⟨index, task⟩ := j
  rcases unlooked with queued | holding
  · have mem : (index, .queued ⟨index, task⟩) ∈ s.places := mem_places.mpr ⟨queued, rfl⟩
    obtain ⟨t, -, told⟩ := ledger.stories _ _ mem
    refine ledger.barred mem ⟨?_, nofun⟩
    dsimp only
    generalize history s.log index = story at told ⊢
    cases told
    exact fun _ => List.not_mem_nil
  · obtain ⟨w, here⟩ := List.getElem?_of_mem holding
    have mem : (index, .held w (.holding ⟨index, task⟩)) ∈ s.places :=
      mem_places.mpr ⟨here, _, rfl, rfl⟩
    obtain ⟨t, -, told⟩ := ledger.stories _ _ mem
    refine ledger.barred mem ⟨?_, fun w phase same => by cases same; rfl⟩
    dsimp only
    generalize history s.log index = story at told ⊢
    cases told
    simp

end State

/-! ### Batches -/

namespace Batch

variable {b : Batch σ ω} {deadline : Option Nat} {world : ω} {events rest : List Event}
  {s mid : State σ ω}

/-- No job begins twice. -/
theorem nodup_begunIndices (reached : (b.start world).after? deadline events = some s) :
    (begunIndices s.log).Nodup := by
  refine List.nodup_iff_count_le_one.mpr fun i => ?_
  rw [count_begunIndices]
  by_cases lt : i < b.tasks.length
  · exact ((conserved_of_run reached).entered i lt).sublist.count_le .prepare
  · rw [stepsEntered_eq_history, State.history_of_run reached (Nat.le_of_not_lt lt)]
    exact Nat.zero_le 1

/-- What happens to a batch from a state on, in which the pool is cancelled. -/
structure Stemmed (b : Batch σ ω) (mid s : State σ ω) : Prop where
  /-- The flag stays set. -/
  flag : s.cancelled = true
  /-- No job begins twice. -/
  begun : begunIndices s.log = begunIndices mid.log ++ mid.begunSince s ∧
    (begunIndices s.log).Nodup
  /-- A job only begins if the one worker that ever takes it had taken it and had looked at the flag
  before. -/
  poised : ∀ i ∈ mid.begunSince s, ∃ w phase j, takers s.log i = [w] ∧
    mid.workers[w]? = some phase ∧ phase.poised? = some j ∧ j.index = i
  /-- No worker begins more than one job. -/
  once : ∀ i ∈ mid.begunSince s, ∀ k ∈ mid.begunSince s, takers s.log i = takers s.log k → i = k
  /-- No more jobs begin than there are workers. -/
  few : (mid.begunSince s).length ≤ min b.poolSize b.tasks.length
  /-- A job that is still in the queue enters no step, nor does one for which its worker has not yet
  looked at the flag. -/
  barred : ∀ j, j ∈ mid.queue ∨ .holding j ∈ mid.workers → stepsEntered s.log j.index = []

/-- A worker that has a job is the only one that ever takes it. -/
theorem takers_of_job? {w : Nat} {phase : Worker σ ω} {j : Job σ ω}
    (reached : (b.start world).after? deadline events = some mid)
    (run : mid.after? deadline rest = some s) (there : mid.workers[w]? = some phase)
    (has : phase.job? = some j) : takers s.log j.index = [w] := by
  have ledger := State.ledger_of_run reached
  have whole : (b.start world).after? deadline (events ++ rest) = some s := by
    rw [State.after?_append, reached]
    exact run
  have taken := mem_takers.mpr ((State.later_of_run run).log _ (ledger.taken there has))
  have held : (j.index, .held w phase) ∈ mid.places := State.mem_places.mpr ⟨there, j, has, rfl⟩
  have lt := ledger.lt_of_mem held
  obtain ⟨v, only⟩ := List.length_eq_one_iff.mp (Nat.le_antisymm
    ((conserved_of_run whole).takenOnce j.index lt) (List.length_pos_of_mem taken))
  rw [only, List.mem_singleton] at taken
  rw [only, taken]

/-- Only jobs that workers were poised to begin do begin. -/
theorem poised_of_begunSince (reached : (b.start world).after? deadline events = some mid)
    (cancelled : mid.cancelled = true) (run : mid.after? deadline rest = some s)
    (nodup : (begunIndices s.log).Nodup) {i : Nat} (since : i ∈ mid.begunSince s) :
    ∃ (w : Nat) (phase : Worker σ ω) (j : Job σ ω), takers s.log i = [w] ∧
      mid.workers[w]? = some phase ∧ phase.poised? = some j ∧ j.index = i := by
  have split := State.begunIndices_eq_append run
  have begun : i ∈ begunIndices s.log := split ▸ List.mem_append_right _ since
  have ledger := State.ledger_of_run reached
  have lt : i < b.tasks.length := by
    -- there are no notes on a job that there is not
    by_contra ge
    have whole : (b.start world).after? deadline (events ++ rest) = some s := by
      rw [State.after?_append, reached]
      exact run
    have entered : .entered i .prepare ∈ history s.log i :=
      mem_history (beq_self_eq_true i) (mem_begunIndices.mp begun)
    rw [State.history_of_run whole (Nat.le_of_not_lt ge)] at entered
    cases entered
  rcases ledger.stage lt with ⟨w, phase, j, there, poised, rfl⟩ | before | barred
  · exact ⟨w, phase, j, takers_of_job? reached run there (Worker.job?_of_poised? poised), there,
      poised, rfl⟩
  · rw [split] at nodup
    exact absurd since (List.disjoint_of_nodup_append nodup before)
  · have untouched := (State.barred_of_run cancelled barred run).untouched
    exact absurd (mem_begunIndices.mp begun) (untouched .prepare)

/-- Jobs that different workers were poised to begin are not more than there are workers. -/
theorem length_begunSince_le (reached : (b.start world).after? deadline events = some mid)
    (nodup : (mid.begunSince s).Nodup)
    (poised : ∀ i ∈ mid.begunSince s, ∃ phase ∈ mid.workers, ∃ j, phase.poised? = some j ∧
      j.index = i) :
    (mid.begunSince s).length ≤ min b.poolSize b.tasks.length := by
  have among : mid.begunSince s ⊆
      mid.workers.filterMap fun phase => phase.poised?.map Job.index := by
    intro i since
    obtain ⟨phase, there, j, poised, rfl⟩ := poised i since
    refine List.mem_filterMap.mpr ⟨phase, there, ?_⟩
    rw [poised, Option.map_some]
  calc (mid.begunSince s).length
      ≤ (mid.workers.filterMap fun phase => phase.poised?.map Job.index).length :=
        (List.subperm_of_subset nodup among).length_le
    _ ≤ mid.workers.length := List.length_filterMap_le _ _
    _ = min b.poolSize b.tasks.length := State.length_workers_of_run reached

/-- **Cancelling a pool stops the queue.** When the driver of a batch has answered, the pool is
cancelled. From any state on in which it is: a job only begins if the worker that took it had looked
at the flag before, each worker begins at most one such job, no more jobs begin than there are
workers, and no job that was in the queue ever enters a step, whatever the order of the events. -/
theorem stemmed_of_run (reached : (b.start world).after? deadline events = some s) :
    (s.driver.isGone = true → s.cancelled = true) ∧
      ∀ mid, State.Through deadline (b.start world) events mid → mid.cancelled = true →
        b.Stemmed mid s := by
  refine ⟨(State.orderly_of_run reached).cancelled_of_isGone, fun mid through cancelled => ?_⟩
  obtain ⟨before, after, rfl, here⟩ := through
  have run : mid.after? deadline after = some s := by
    rw [State.after?_append, here] at reached
    exact reached
  have split := State.begunIndices_eq_append run
  have nodup := nodup_begunIndices reached
  have poised := fun i (since : i ∈ mid.begunSince s) =>
    poised_of_begunSince here cancelled run nodup since
  refine ⟨State.cancelled_of_run cancelled run, ⟨split, nodup⟩, poised, ?_, ?_, ?_⟩
  · intro i since k since' same
    obtain ⟨w, phase, j, taker, there, poised_i, rfl⟩ := poised i since
    obtain ⟨w', phase', j', taker', there', poised_k, rfl⟩ := poised k since'
    rw [taker, taker'] at same
    cases same
    cases there.symm.trans there'
    cases poised_i.symm.trans poised_k
    rfl
  · refine length_begunSince_le here (List.nodup_append.mp (split ▸ nodup)).2.1 fun i since => ?_
    obtain ⟨w, phase, j, -, there, poised, same⟩ := poised i since
    exact ⟨phase, List.mem_of_getElem? there, j, poised, same⟩
  · intro j unlooked
    have ledger := State.ledger_of_run here
    have barred := State.barred_of_run cancelled (ledger.barred_of_unlooked unlooked) run
    exact List.eq_nil_iff_forall_not_mem.mpr fun step mem =>
      barred.untouched step (mem_stepsEntered.mp mem)

/-- Two workers for three tasks, and one second. -/
def queuedBatch : Batch Unit Unit where
  tasks := [passingTask "a" "a" false, passingTask "b" "b" false, passingTask "c" "c" false]
  poolSize := 2
  timeoutSeconds := 1

/-- The first worker enters the first task, the second one looks at the flag for the second task;
then the deadline is reached and the pool is cancelled. -/
def cancellingEvents : List Event :=
  List.replicate 4 (.work 0) ++ [.work 1, .work 1, .poll, .tick 1000000000, .expire, .cancel]

/-- The first worker reports, takes the third task and gives it up; when the driver has answered, the
second worker begins the second task and goes through it. -/
def belatedEvents : List Event :=
  List.replicate 11 (.work 0) ++ .answer :: List.replicate 11 (.work 1)

/-- Of the two jobs that have not begun when the pool is cancelled, the one that a worker had looked
at the flag for begins, and the one in the queue does not. -/
theorem stemmed_queuedBatch :
    ∃ mid s, (queuedBatch.start ()).after? queuedBatch.deadline?
        (cancellingEvents ++ belatedEvents) = some s ∧
      State.Through queuedBatch.deadline? (queuedBatch.start ())
        (cancellingEvents ++ belatedEvents) mid ∧
      mid.cancelled = true ∧ mid.begunSince s = [1] ∧ mid.queue.map Job.index = [2] ∧
      queuedBatch.Stemmed mid s := by
  obtain ⟨mid, s, here, reached, cancelled, since, queue⟩ :
      ∃ mid s, (queuedBatch.start ()).after? queuedBatch.deadline? cancellingEvents = some mid ∧
        (queuedBatch.start ()).after? queuedBatch.deadline?
          (cancellingEvents ++ belatedEvents) = some s ∧
        mid.cancelled = true ∧ mid.begunSince s = [1] ∧ mid.queue.map Job.index = [2] :=
    ⟨_, _, rfl, rfl, rfl, rfl, rfl⟩
  have through : State.Through queuedBatch.deadline? (queuedBatch.start ())
      (cancellingEvents ++ belatedEvents) mid := ⟨_, _, rfl, here⟩
  exact ⟨mid, s, reached, through, cancelled, since, queue,
    (stemmed_of_run reached).2 mid through cancelled⟩

end Batch

end SmokeTest.Pool
