/-
Which batches are refused, and what a batch returns.

* `IsUnfit ids i` — the id in the place `i` cannot stand for its task;
* `Batch.Refused` — the reasons for which a batch is refused, each as far as it is told;
* `validated_of_returns` — a batch returns an error exactly if it is refused, and then nothing has
  happened; any other batch returns one result for each task.

Design notes: ids are looked at in their order, and the place of the first unfit one is told without
the search for it. That an error leaves the world alone says more than that no step was entered,
since a world may be one that keeps every step.
-/
import Mathlib.Data.Nat.Find
import SmokeTest.Proofs.Pool.Acceptance
import SmokeTest.Proofs.Pool.Calls
import SmokeTest.Proofs.Pool.Schedule

namespace SmokeTest.Pool

variable {σ ω : Type}

/-! ### Ids -/

/-- The id in the place `i` is empty, or it stands in an earlier place as well. -/
def IsUnfit (ids : List String) (i : Nat) : Prop :=
  ∃ id, ids[i]? = some id ∧ (id = "" ∨ id ∈ ids.take i)

/-- Ids are looked at from left to right, and those that were passed have been seen. -/
theorem idFault?_append (seen before after : List String) :
    idFault? seen (before ++ after) =
      (idFault? seen before).or (idFault? (before.reverse ++ seen) after) := by
  induction before generalizing seen with
  | nil => rfl
  | cons id rest ih =>
    rw [List.cons_append, idFault?, idFault?]
    by_cases empty : id.isEmpty = true
    · rw [if_pos empty, if_pos empty]
      rfl
    · rw [if_neg empty, if_neg empty]
      by_cases before : id ∈ seen
      · rw [if_pos before, if_pos before]
        rfl
      · rw [if_neg before, if_neg before, ih, List.reverse_cons, List.append_assoc]
        rfl

/-- Nothing is wrong with the ids before a place exactly if none of them is unfit. -/
theorem idFault?_take_eq_none_iff {ids : List String} {n : Nat} :
    idFault? [] (ids.take n) = none ↔ ∀ j < n, ¬ IsUnfit ids j := by
  induction n with
  | zero => simp [idFault?]
  | succ n ih =>
    rw [Nat.forall_lt_succ_right, ← ih, List.take_add_one, idFault?_append, Option.or_eq_none_iff]
    refine and_congr_right fun _ => ?_
    cases here : ids[n]? with
    | none => simp [idFault?, IsUnfit, here]
    | some id =>
      rw [Option.toList_some, idFault?_eq_none_iff]
      simp [IsUnfit, here]

/-- The first unfit id decides what is wrong with the ids. -/
theorem idFault?_of_first {ids : List String} {i : Nat} {id : String} (here : ids[i]? = some id)
    (first : ∀ j < i, ¬ IsUnfit ids j) :
    idFault? [] ids =
      if id = "" then some .emptyId
      else if id ∈ ids.take i then some (.duplicateId id)
      else idFault? (id :: (ids.take i).reverse) (ids.drop (i + 1)) := by
  obtain ⟨lt, rfl⟩ := List.getElem?_eq_some_iff.mp here
  conv_lhs => rw [← List.take_append_drop i ids, List.drop_eq_getElem_cons lt]
  rw [idFault?_append, idFault?_take_eq_none_iff.mpr first, Option.none_or, List.append_nil,
    idFault?]
  simp only [String.isEmpty_iff, List.mem_reverse]

namespace Batch

variable {b : Batch σ ω} {world : ω}

/-! ### Reasons -/

/-- The reasons for which a batch is refused: it has no worker; or else it has no time; or else an
id is empty or repeated, and no earlier one is. -/
inductive Refused (b : Batch σ ω) : Error → Prop
  | workers (none_there : b.poolSize = 0) : Refused b .noWorkers
  | time (workers : b.poolSize ≠ 0) (none_there : b.timeoutSeconds = 0) : Refused b .noTime
  | empty {i : Nat} (workers : b.poolSize ≠ 0) (time : b.timeoutSeconds ≠ 0)
      (here : b.ids[i]? = some "") (first : ∀ j < i, ¬ IsUnfit b.ids j) : Refused b .emptyId
  | repeated {i : Nat} {id : String} (workers : b.poolSize ≠ 0) (time : b.timeoutSeconds ≠ 0)
      (here : b.ids[i]? = some id) (earlier : id ∈ b.ids.take i)
      (first : ∀ j < i, ¬ IsUnfit b.ids j) : Refused b (.duplicateId id)

theorem Refused.fault?_eq {fault : Error} (refused : b.Refused fault) : b.fault? = some fault := by
  rw [fault?]
  cases refused with
  | workers none_there => exact if_pos none_there
  | time workers none_there => rw [if_neg workers, if_pos none_there]
  | empty workers time here first =>
    rw [if_neg workers, if_neg time, idFault?_of_first here first, if_pos rfl]
  | @repeated i id workers time here earlier first =>
    rw [if_neg workers, if_neg time, idFault?_of_first here first]
    -- an empty id that is repeated would not be the first unfit one
    have named : id ≠ "" := by
      rintro rfl
      obtain ⟨j, lt, same⟩ := List.mem_take_iff_getElem.mp earlier
      exact first j (by omega) ⟨"", List.getElem?_eq_some_iff.mpr ⟨by omega, same⟩, .inl rfl⟩
    rw [if_neg named, if_pos earlier]

/-- The fault of a batch is the first of the reasons for which it is refused. -/
theorem refused_iff {fault : Error} : b.Refused fault ↔ b.fault? = some fault := by
  refine ⟨Refused.fault?_eq, fun found => ?_⟩
  -- whatever reason there is, it is the one that was found
  suffices some_reason : ∃ reason, b.Refused reason by
    obtain ⟨reason, refused⟩ := some_reason
    rw [refused.fault?_eq] at found
    cases found
    exact refused
  by_cases workers : b.poolSize = 0
  · exact ⟨_, .workers workers⟩
  by_cases time : b.timeoutSeconds = 0
  · exact ⟨_, .time workers time⟩
  have unfit : ∃ i, IsUnfit b.ids i := by
    by_contra none_unfit
    have fit := idFault?_take_eq_none_iff (n := b.ids.length).mpr fun j _ unfit =>
      none_unfit ⟨j, unfit⟩
    rw [fault?, if_neg workers, if_neg time, ← List.take_length (l := b.ids), fit] at found
    cases found
  classical
  obtain ⟨id, here, reason⟩ := Nat.find_spec unfit
  have first : ∀ j < Nat.find unfit, ¬ IsUnfit b.ids j := fun j => Nat.find_min unfit
  rcases reason with rfl | earlier
  · exact ⟨_, .empty workers time here first⟩
  · exact ⟨_, .repeated workers time here earlier first⟩

/-! ### What is returned -/

/-- What a batch returns under its schedule is one of the things that it may return. -/
theorem exists_returns (b : Batch σ ω) (world : ω) :
    ∃ log world', b.Returns world (b.run world) log world' := by
  cases found : b.fault? with
  | some fault =>
    rw [run_eq_error_iff.mpr found]
    exact ⟨_, _, returns_refused found⟩
  | none =>
    by_cases none_there : b.tasks = []
    · have answer : b.run world = .ok [] := by
        rw [run, found]
        exact if_pos (List.isEmpty_iff.mpr none_there)
      rw [answer]
      exact ⟨_, _, returns_nothing found none_there⟩
    · obtain ⟨events, s, run, gone, answer⟩ := exists_run found world
      rw [answer]
      exact ⟨_, _, run.returns none_there gone⟩

/-- As long as the driver has not answered, it can still do so. -/
theorem Run.exists_answer {events : List Event} {s : State σ ω}
    (_ : b.Run b.deadline? world events s) :
    ∃ later s', s.after? b.deadline? later = some s' ∧ s'.driver.isGone = true := by
  obtain ⟨later, reached⟩ := State.exists_events_follow b.deadline? (s.cost b.deadline?) s
  exact ⟨later, _, reached, State.isGone_follow (Nat.le_refl _)⟩

theorem id_settle (timeoutSeconds : Nat) (timedOut : Bool) (id : String) (slot : Option Outcome) :
    (settle timeoutSeconds timedOut id slot).id = id := by
  cases slot with
  | none => cases timedOut <;> rfl
  | some o =>
    rw [settle]
    split
    · next same => exact same
    · rfl

/-- Every result carries the id of its task. -/
theorem Run.ids_results {deadline : Option Nat} {events : List Event} {s : State σ ω}
    (run : b.Run deadline world events s) : (b.results s).map Outcome.id = b.ids := by
  refine List.ext_getElem? fun i => ?_
  rw [List.getElem?_map, ids, List.getElem?_map]
  cases get : b.tasks[i]? with
  | none =>
    rw [List.getElem?_eq_none_iff] at get
    rw [List.getElem?_eq_none (run.length_results ▸ get)]
    rfl
  | some t =>
    rw [run.getElem?_results get, Option.map_some, Option.map_some, id_settle]

/-- What is kept by everything that a batch may return. -/
structure Validated (b : Batch σ ω) (world : ω) (answer : Except Error (List Outcome))
    (log : List Note) (world' : ω) : Prop where
  /-- A batch is refused for one of four things that are wrong with it. -/
  exact : (∃ fault, answer = .error fault ∧ fault.kind = .argument) ↔
    b.poolSize = 0 ∨ b.timeoutSeconds = 0 ∨ "" ∈ b.ids ∨ ¬ b.ids.Nodup
  /-- Of several such things the first one is told. -/
  first : ∀ fault, answer = .error fault ↔ b.Refused fault
  /-- A batch that is refused has not begun: no task was taken, and no step was entered. -/
  silent : ∀ fault, answer = .error fault →
    (∀ i, takers log i = [] ∧ stepsEntered log i = []) ∧ world' = world
  /-- There is one result for each task, in their order. -/
  complete : ∀ outcomes, answer = .ok outcomes →
    outcomes.length = b.tasks.length ∧ outcomes.map Outcome.id = b.ids

theorem kind_of_refused {fault : Error} (refused : b.Refused fault) : fault.kind = .argument := by
  cases refused <;> rfl

theorem exists_refused_iff :
    (∃ fault, b.Refused fault) ↔
      b.poolSize = 0 ∨ b.timeoutSeconds = 0 ∨ "" ∈ b.ids ∨ ¬ b.ids.Nodup := by
  simp only [refused_iff, ← Option.isSome_iff_exists, ← Option.ne_none_iff_isSome]
  rw [Ne, fault?_eq_none_iff, not_and_or, not_and_or, not_and_or, not_not, not_not]
  simp

theorem Returns.eq_error_iff {answer : Except Error (List Outcome)} {log : List Note} {world' : ω}
    (returns : b.Returns world answer log world') {fault : Error} :
    answer = .error fault ↔ b.Refused fault := by
  rw [refused_iff]
  rcases returns.cases with
    ⟨_, found, rfl, -⟩ | ⟨accepted, -, rfl, -⟩ | ⟨_, _, run, -, rfl, -⟩
  · simp [found]
  · simp [accepted]
  · simp [run.accepted]

/-- **A batch is checked before anything happens.** A batch has something to return, and as long as
its driver has not answered, it still can. Whatever it returns, in whatever order the workers and
the driver move: it is an error exactly if there is no worker, no time, an empty id or a repeated
one; the first of these is told, with the first unfit id; then no step of any task was entered and
the world is as it was; and otherwise there is one result for each task, under its id. -/
theorem validated_of_returns (b : Batch σ ω) (world : ω) :
    (∃ log world', b.Returns world (b.run world) log world') ∧
      (∀ events s, b.Run b.deadline? world events s →
        ∃ later s', s.after? b.deadline? later = some s' ∧ s'.driver.isGone = true) ∧
      ∀ answer log world', b.Returns world answer log world' →
        b.Validated world answer log world' := by
  refine ⟨b.exists_returns world, fun _ _ run => run.exists_answer, fun answer log world' h => ?_⟩
  constructor
  · rw [← exists_refused_iff]
    refine exists_congr fun fault => ?_
    rw [h.eq_error_iff]
    exact and_iff_left_of_imp kind_of_refused
  · exact fun fault => h.eq_error_iff
  · rintro fault rfl
    rcases h.cases with ⟨_, -, -, rfl, rfl⟩ | ⟨-, -, other, -⟩ | ⟨_, _, -, -, other, -⟩
    · exact ⟨fun _ => ⟨rfl, rfl⟩, rfl⟩
    · cases other
    · cases other
  · rintro outcomes rfl
    rcases h.cases with ⟨_, -, other, -⟩ | ⟨-, none_there, same, -⟩ | ⟨_, _, run, -, same, -⟩
    · cases other
    · cases same
      simp [none_there, ids]
    · cases same
      exact ⟨run.length_results, run.ids_results⟩

/-- Two workers for three tasks; the second task has no id, and the third one that of the first. -/
def namelessBatch : Batch Unit Unit where
  tasks := [passingTask "a" "a" false, passingTask "" "" false, passingTask "a" "a" false]
  poolSize := 2
  timeoutSeconds := 60

/-- Of the two ids that are unfit the first one is told, and nothing happens; a batch with a task
that is lost goes on to an answer, which has a result for each of its tasks. -/
theorem validated_namelessBatch :
    namelessBatch.Returns () (.error .emptyId) [] () ∧ namelessBatch.Refused .emptyId ∧
      ¬ namelessBatch.ids.Nodup ∧
      ∃ s later s', lossyBatch.Run lossyBatch.deadline? () (lossyEvents.take 20) s ∧
        s.after? lossyBatch.deadline? later = some s' ∧ s'.driver.isGone = true ∧
        lossyBatch.Returns () (.ok (lossyBatch.results s')) s'.log () ∧
        (lossyBatch.results s').map Outcome.id = ["a", "b", "c"] := by
  have returns : namelessBatch.Returns () (.error .emptyId) [] () := returns_refused rfl
  have validated := (validated_of_returns namelessBatch ()).2.2 _ _ _ returns
  obtain ⟨s, run⟩ : ∃ s, lossyBatch.Run lossyBatch.deadline? () (lossyEvents.take 20) s :=
    ⟨_, rfl, rfl⟩
  obtain ⟨-, goesOn, kept⟩ := validated_of_returns lossyBatch ()
  obtain ⟨later, s', reached, gone⟩ := goesOn _ s run
  have run' : lossyBatch.Run lossyBatch.deadline? () (lossyEvents.take 20 ++ later) s' :=
    ⟨rfl, by rw [State.after?_append, run.reached]; exact reached⟩
  have returns' : lossyBatch.Returns () (.ok (lossyBatch.results s')) s'.log () :=
    run'.returns (by simp [lossyBatch]) gone
  exact ⟨returns, (validated.first _).mp rfl, by decide, s, later, s', run, reached, gone, returns',
    ((kept _ _ _ returns').complete _ rfl).2⟩

end Batch

end SmokeTest.Pool
