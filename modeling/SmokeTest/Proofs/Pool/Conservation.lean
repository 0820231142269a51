/-
No job is lost sight of, none is begun twice, and no more are under way than there are workers.

* `inOrder_of_run` — the jobs are taken in their order, and the queue is the rest;
* `card_held_le` — the jobs in the hands of the workers are at most as many as they;
* `Conserved` — what is kept in every state of a pool;
* `conserved_of_run` — it is kept, whatever the order of the events.

Design notes: what is said of a single job is read off the shape that all stories have in common;
what is said of all jobs together follows from the ledger and from the order of the queue.
-/
import SmokeTest.Proofs.Pool.Outcomes
import SmokeTest.Proofs.Pool.Workers

namespace SmokeTest.Pool

variable {σ ω : Type}

/-! ### A single job -/

namespace Shape

variable {index : Nat} {notes : List Note}

theorem length_takers_le (h : Shape index notes) :
    (notes.filterMap fun
      | .taken worker i => if i = index then some worker else none
      | _ => none).length ≤ 1 := by
  cases h with
  | untouched => exact Nat.zero_le 1
  | taken w steps ends =>
    rw [List.cons_append, List.filterMap_cons, List.filterMap_append,
      steps.filterMap (fun _ => rfl) fun _ _ => rfl]
    cases ends <;> simp

theorem length_sent_le (h : Shape index notes) :
    (notes.filterMap fun
      | .sent i o => if i = index then some o else none
      | _ => none).length ≤ 1 := by
  cases h with
  | untouched => exact Nat.zero_le 1
  | taken w steps ends =>
    rw [List.cons_append, List.filterMap_cons, List.filterMap_append,
      steps.filterMap (fun _ => rfl) fun _ _ => rfl]
    cases ends <;> simp

/-- Only the way of a job is on its steps. -/
theorem entries_taken {w : Nat} {way close : List Note} (ends : Close index close) :
    entries index (.taken w index :: way ++ close) = entries index way := by
  have none_left : entries index close = [] := by cases ends <;> rfl
  rw [List.cons_append, ← List.singleton_append, entries_append, entries_append, none_left,
    List.append_nil]
  rfl

theorem exits_taken {w : Nat} {way close : List Note} (ends : Close index close) :
    exits index (.taken w index :: way ++ close) = exits index way := by
  have none_left : exits index close = [] := by cases ends <;> rfl
  rw [List.cons_append, ← List.singleton_append, exits_append, exits_append, none_left,
    List.append_nil]
  rfl

/-- The steps are entered in their order, none of them twice. -/
theorem entries_isPrefix (h : Shape index notes) : entries index notes <+: Step.all := by
  cases h with
  | untouched => exact List.nil_prefix
  | taken w steps ends =>
    rw [entries_taken ends]
    cases steps with
    | @passed before left order =>
      rw [entries_passage]
      exact ⟨left, order⟩
    | @inside before left step order | @faulty before left step ending text order fault =>
      rw [entries_append, entries_passage]
      exact ⟨left, by simpa [entries] using order⟩

/-- Behind a step that did not end well no other step is entered. -/
theorem getLast?_entries (h : Shape index notes) {step : Step} {ending : Ending}
    (left : (step, ending) ∈ exits index notes) (bad : ending ≠ .done) :
    (entries index notes).getLast? = some step := by
  cases h with
  | untouched => cases left
  | taken w steps ends =>
    rw [exits_taken ends] at left
    rw [entries_taken ends]
    -- the steps of the passage ended well, so it is the last one that did not
    have passed : ∀ {before}, (step, ending) ∉ exits index (Task.passage index before) := by
      intro before mem
      rw [exits_passage, List.mem_map] at mem
      obtain ⟨_, _, same⟩ := mem
      cases same
      exact bad rfl
    cases steps with
    | passed => exact absurd left passed
    | inside =>
      rw [exits_append, List.mem_append] at left
      rcases left with left | left
      · exact absurd left passed
      · simp [exits] at left
    | faulty =>
      rw [exits_append, List.mem_append] at left
      rcases left with left | left
      · exact absurd left passed
      · simp only [exits, List.filterMap_cons, List.filterMap_nil, if_true, List.mem_singleton,
          Prod.mk.injEq] at left
        rw [entries_append, left.1]
        simp [entries]

end Shape

/-! ### The queue -/

/-- The indices of the jobs that were taken, in the order in which they were. -/
def takenIndices (log : List Note) : List Nat :=
  log.reverse.filterMap fun
    | .taken _ i => some i
    | _ => none

theorem takenIndices_cons (n : Note) (log : List Note) :
    takenIndices (n :: log) = takenIndices log ++
      match n with
      | .taken _ i => [i]
      | _ => [] := by
  rw [takenIndices, List.reverse_cons, List.filterMap_append]
  cases n <;> rfl

namespace State

variable {tasks : List (Task σ ω)} {s s' : State σ ω} {w : Nat} {phase : Worker σ ω}

/-- A move leaves the queue alone or takes its first job. -/
theorem Move.queue (move : Move s w phase s') :
    (s'.queue = s.queue ∧ takenIndices s'.log = takenIndices s.log) ∨
      ∃ j, s.queue = j :: s'.queue ∧ takenIndices s'.log = takenIndices s.log ++ [j.index] := by
  cases move with
  | take queue => exact .inr ⟨_, queue, takenIndices_cons _ _⟩
  | stop | clear | start | finish => exact .inl ⟨rfl, rfl⟩
  | skip | die | enter | pass | fail | dieBehind | discard | send =>
    exact .inl ⟨rfl, (takenIndices_cons _ _).trans (List.append_nil _)⟩

/-- The jobs are taken in their order, and the queue is the rest. -/
def InOrder (tasks : List (Task σ ω)) (s : State σ ω) : Prop :=
  ∃ k, takenIndices s.log = List.range k ∧ s.queue = (jobs tasks).drop k

theorem InOrder.take {j : Job σ ω} {rest : List (Job σ ω)} (h : InOrder tasks s)
    (queue : s.queue = j :: rest) (queue' : s'.queue = rest)
    (taken : takenIndices s'.log = takenIndices s.log ++ [j.index]) : InOrder tasks s' := by
  obtain ⟨k, before, rest_eq⟩ := h
  rw [queue] at rest_eq
  have get : (jobs tasks)[k]? = some j := by
    rw [← Nat.add_zero k, ← List.getElem?_drop, ← rest_eq, List.getElem?_cons_zero]
  -- the jobs are numbered in their order, so the one at the front has the next number
  have index : j.index = k := by
    have index : ((jobs tasks).map Job.index)[k]? = some j.index := by
      rw [List.getElem?_map, get, Option.map_some]
    rw [map_index_jobs] at index
    obtain ⟨_, same⟩ := List.getElem?_eq_some_iff.mp index
    rw [← same, List.getElem_range]
  refine ⟨k + 1, ?_, ?_⟩
  · rw [taken, before, index, List.range_succ]
  · rw [queue', ← List.drop_drop, ← rest_eq, List.drop_one, List.tail_cons]

theorem inOrder_of_run {deadline : Option Nat} {poolSize : Nat} {world : ω} {events : List Event}
    (run : (start tasks poolSize world).after? deadline events = some s) : InOrder tasks s := by
  refine after?_induct (p := fun _ s => InOrder tasks s) ⟨0, rfl, rfl⟩ ?_ events s run
  intro _ _ mid s _ h step
  cases step with
  | work here move =>
    rcases move.queue with ⟨queue, taken⟩ | ⟨j, queue, taken⟩
    · obtain ⟨k, before, rest⟩ := h
      exact ⟨k, taken.trans before, queue.trans rest⟩
    · exact h.take queue rfl taken
  | receive | cancel =>
    obtain ⟨k, before, rest⟩ := h
    exact ⟨k, (takenIndices_cons _ _).trans ((List.append_nil _).trans before), rest⟩
  | tick | complete | late | wait | expire | disconnect | answer => exact h

/-! ### The workers -/

theorem Move.length_workers (move : Move s w phase s') : s'.workers.length = s.workers.length := by
  cases move <;> exact List.length_set

/-- There are never more workers, and never fewer. -/
theorem length_workers_of_run {deadline : Option Nat} {poolSize : Nat} {world : ω}
    {events : List Event} (run : (start tasks poolSize world).after? deadline events = some s) :
    s.workers.length = min poolSize tasks.length := by
  refine after?_induct (p := fun _ s => s.workers.length = min poolSize tasks.length)
    List.length_replicate ?_ events s run
  intro _ _ mid s _ h step
  cases step with
  | work here move => exact move.length_workers.trans h
  | tick | complete | late | wait | receive | expire | disconnect | cancel | answer => exact h

end State

/-- Whether a job in this place is with a worker. -/
def Place.isHeld : Place σ ω → Bool
  | held _ _ => true
  | _ => false

theorem card_heldFrom_le (k : Nat) (workers : List (Worker σ ω)) :
    (heldFrom k workers).card ≤ workers.length := by
  induction workers generalizing k with
  | nil => exact Nat.le_refl 0
  | cons phase rest ih =>
    have one : (phase.place k).card ≤ 1 := by
      rw [Worker.place]
      cases phase.job? <;> simp
    rw [heldFrom, Multiset.card_add, List.length_cons]
    have rest := ih (k + 1)
    omega

namespace State

/-- The jobs in the hands of the workers are at most as many as they. -/
theorem card_held_le (s : State σ ω) :
    (s.places.filter fun x => x.2.isHeld).card ≤ s.workers.length := by
  have others : (s.unheld.filter fun x => x.2.isHeld) = 0 := by
    refine Multiset.filter_eq_nil.mpr fun ⟨i, p⟩ mem held => ?_
    simp only [unheld, Multiset.mem_add, Multiset.mem_coe, List.mem_map] at mem
    rcases mem with (⟨_, _, same⟩ | ⟨_, _, same⟩) | mem
    · cases same
      cases held
    · cases same
      cases held
    · rcases mem_filterMap_place?.mp mem with ⟨_, _, rfl⟩ | ⟨_, rfl⟩
      · cases held
      · cases held
  rw [places_eq, Multiset.filter_add, others, add_zero]
  exact (Multiset.card_le_card (Multiset.filter_le _ _)).trans (card_heldFrom_le 0 s.workers)

/-! ### What the driver has recorded -/

/-- The jobs whose reports the driver has received are those with a report in their slot. -/
theorem recorded_iff (ledger : Ledger tasks s) (collected : Collected tasks.length s) {i : Nat}
    {o : Outcome} : (i, .received o) ∈ s.places ↔ s.collector.slots[i]? = some (some o) := by
  rw [ledger.received_iff, collected.slots, List.getElem?_map]
  constructor
  · intro one
    have received : .received i o ∈ s.log := mem_places.mp (ledger.received_iff.mpr one)
    obtain ⟨t, _, _, get, _⟩ := ledger.received received
    have lt : i < tasks.length := (List.getElem?_eq_some_iff.mp get).1
    rw [List.getElem?_range lt, Option.map_some, one]
    rfl
  · intro slot
    cases get : (List.range tasks.length)[i]? with
    | none => rw [get] at slot; cases slot
    | some k =>
      obtain ⟨_, rfl⟩ := List.getElem?_eq_some_iff.mp get
      rw [get, Option.map_some, Option.some.injEq, List.getElem_range] at slot
      exact ledger.received_iff.mp (mem_places.mpr (mem_reportsReceived.mp
        (List.mem_of_getLast? slot)))

end State

/-! ### Conservation -/

namespace Batch

/-- What is kept in every state of a batch. -/
structure Conserved (b : Batch σ ω) (s : State σ ω) : Prop where
  /-- The jobs are taken in the order of the tasks, and the others are in the queue. -/
  order : ∃ k, takenIndices s.log = List.range k ∧ s.queue = (State.jobs b.tasks).drop k
  /-- Every job is in exactly one place, and there are no other jobs. -/
  placed : s.places.map Prod.fst = Multiset.range b.tasks.length
  /-- A job that the driver has received is recorded in its slot, and no other job is. -/
  recorded : ∀ i o, (i, .received o) ∈ s.places ↔ s.collector.slots[i]? = some (some o)
  /-- A job is only dropped by a worker that took it and has left since. -/
  dropped : ∀ i, (i, .dropped) ∈ s.places → ∃ w gone, takers s.log i = [w] ∧
    s.workers[w]? = some gone ∧ State.HasLeft s gone
  /-- No job is taken twice. -/
  takenOnce : ∀ i < b.tasks.length, (takers s.log i).length ≤ 1
  /-- No job is reported twice. -/
  sentOnce : ∀ i < b.tasks.length, (reportsSent s.log i).length ≤ 1
  /-- The steps of a job are entered in their order, none of them twice. -/
  entered : ∀ i < b.tasks.length, stepsEntered s.log i <+: Step.all
  /-- A step that does not end well is the last one that its job enters. -/
  halted : ∀ i < b.tasks.length, ∀ step ending, (step, ending) ∈ stepsLeft s.log i →
    ending ≠ .done → (stepsEntered s.log i).getLast? = some step
  /-- No more jobs are under way than there are workers. -/
  bounded : (s.places.filter fun x => x.2.isHeld).card ≤ min b.poolSize b.tasks.length

/-- **Nothing is lost and nothing is done twice.** In every state that a batch can reach: the jobs
are taken in their order; each of them is in one place, and it is taken and reported at most once;
its steps are entered in their order up to the first that does not end well; and no more jobs are
between being taken and being reported than there are workers. -/
theorem conserved_of_run {b : Batch σ ω} {deadline : Option Nat} {world : ω} {events : List Event}
    {s : State σ ω} (reached : (b.start world).after? deadline events = some s) :
    b.Conserved s := by
  have ledger := State.ledger_of_run reached
  have shape : ∀ i < b.tasks.length, Shape i (history s.log i) := by
    intro i lt
    obtain ⟨p, mem⟩ := ledger.exists_place lt
    obtain ⟨_, _, told⟩ := ledger.stories i p mem
    exact told.shape
  have takenOnce : ∀ i < b.tasks.length, (takers s.log i).length ≤ 1 := by
    intro i lt
    rw [takers_eq_history]
    exact (shape i lt).length_takers_le
  constructor
  · exact State.inOrder_of_run reached
  · exact ledger.indices
  · exact fun i o => State.recorded_iff ledger (State.collected_of_run reached)
  · intro i mem
    obtain ⟨w, gone, taken, there, left⟩ :=
      (State.orderly_of_run reached).graves i (State.mem_places.mp mem)
    refine ⟨w, gone, ?_, there, left⟩
    -- the worker that left with the job is the only one that ever took it
    have once := takenOnce i (ledger.lt_of_mem mem)
    have mem := mem_takers.mpr taken
    obtain ⟨v, only⟩ := List.length_eq_one_iff.mp
      (Nat.le_antisymm once (List.length_pos_of_mem mem))
    rw [only, List.mem_singleton] at mem
    rw [only, mem]
  · exact takenOnce
  · intro i lt
    rw [reportsSent_eq_history]
    exact (shape i lt).length_sent_le
  · intro i lt
    rw [stepsEntered_eq_history]
    exact (shape i lt).entries_isPrefix
  · intro i lt step ending left bad
    rw [stepsLeft_eq_history] at left
    rw [stepsEntered_eq_history]
    exact (shape i lt).getLast?_entries left bad
  · exact s.card_held_le.trans_eq (State.length_workers_of_run reached)

/-- After the worker of the second task is lost, the first worker takes the third task. -/
theorem conserved_in_lossyBatch :
    ∃ s, (lossyBatch.start ()).after? lossyBatch.deadline? (lossyEvents.take 20) = some s ∧
      takenIndices s.log = [0, 1, 2] ∧ droppedIndices s.log = [1] ∧ lossyBatch.Conserved s := by
  obtain ⟨s, reached, taken, dropped⟩ :
      ∃ s, (lossyBatch.start ()).after? lossyBatch.deadline? (lossyEvents.take 20) = some s ∧
        takenIndices s.log = [0, 1, 2] ∧ droppedIndices s.log = [1] :=
    ⟨_, rfl, rfl, rfl⟩
  exact ⟨s, reached, taken, dropped, conserved_of_run reached⟩

end Batch

end SmokeTest.Pool
