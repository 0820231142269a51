/-
Calls of a batch, from the check of its limits and ids to what it returns.

* `Call` — how far a call is, with what was noted so far and the world as it is;
* `Call.next?` — what a check, the pool and the driver make of a call;
* `Call.Reached` — what every call that was begun in some world is like, however far it is;
* `Batch.Returns` — what a batch may return, with what was noted until then and the world behind it;
* `Batch.Returns.cases` — a call returns for one of three reasons.

Design notes: the log and the world are handed on from one event to the next, so that nothing is
said here of what a check leaves as it is. That it has not begun a pool is a property of the runs.
-/
import SmokeTest.Proofs.Pool.Outcomes

namespace SmokeTest.Pool

variable {σ ω : Type}

/-! ### Calls -/

/-- A call of a batch. -/
inductive Call (σ ω : Type)
  /-- The batch has not been checked. -/
  | called (log : List Note) (world : ω)
  /-- The batch was accepted and its pool is at work. -/
  | running (s : State σ ω)
  /-- The call is over. -/
  | returned (answer : Except Error (List Outcome)) (log : List Note) (world : ω)

/-- What can happen in a call. -/
inductive CallEvent
  /-- The limits and the ids are looked at, and the pool is set up if there is something to run. -/
  | check
  /-- Something happens in the pool. -/
  | pool (e : Event)
  /-- The driver has answered, and its answer is returned. -/
  | leave

namespace Call

/-- The call after an event; none if the event cannot happen. -/
def next? (b : Batch σ ω) : Call σ ω → CallEvent → Option (Call σ ω)
  | called log world, .check =>
    match b.fault? with
    | some fault => some (returned (.error fault) log world)
    | none =>
      if b.tasks.isEmpty then some (returned (.ok []) log world)
      else some (running { b.start world with log })
  | running s, .pool e => (s.next? b.deadline? e).map running
  | running s, .leave =>
    if s.driver.isGone then some (returned (.ok (b.results s)) s.log s.world) else none
  | _, _ => none

/-- The call after the events, if each of them can happen in its turn. -/
def after? (b : Batch σ ω) : List CallEvent → Call σ ω → Option (Call σ ω)
  | [], c => some c
  | e :: rest, c => (c.next? b e).bind (after? b rest)

/-- What a call is like that was begun in the world. -/
inductive Reached (b : Batch σ ω) (world : ω) : Call σ ω → Prop
  | called : Reached b world (called [] world)
  | running {events : List Event} {s : State σ ω} (some_there : b.tasks ≠ [])
      (run : b.Run b.deadline? world events s) : Reached b world (running s)
  | refused {fault : Error} (found : b.fault? = some fault) :
      Reached b world (returned (.error fault) [] world)
  | nothing (accepted : b.fault? = none) (none_there : b.tasks = []) :
      Reached b world (returned (.ok []) [] world)
  | answered {events : List Event} {s : State σ ω} (some_there : b.tasks ≠ [])
      (run : b.Run b.deadline? world events s) (gone : s.driver.isGone = true) :
      Reached b world (returned (.ok (b.results s)) s.log s.world)

variable {b : Batch σ ω} {world : ω}

theorem Reached.next {c c' : Call σ ω} (h : Reached b world c) {e : CallEvent}
    (step : c.next? b e = some c') : Reached b world c' := by
  cases h with
  | called =>
    cases e with
    | check =>
      rw [next?] at step
      cases found : b.fault? with
      | some fault =>
        -- the log and the world are those that the call began with
        rw [found] at step
        cases step
        exact .refused found
      | none =>
        rw [found] at step
        have started : b.Run b.deadline? world [] (b.start world) := ⟨found, rfl⟩
        by_cases none_there : b.tasks = []
        · rw [if_pos (List.isEmpty_iff.mpr none_there)] at step
          cases step
          exact .nothing found none_there
        · rw [if_neg (mt List.isEmpty_iff.mp none_there)] at step
          cases step
          exact .running none_there started
    | pool | leave => cases step
  | @running events s some_there run =>
    cases e with
    | check => cases step
    | pool e =>
      rw [next?, Option.map_eq_some_iff] at step
      obtain ⟨s', after, rfl⟩ := step
      have longer : b.Run b.deadline? world (events ++ [e]) s' := by
        refine ⟨run.accepted, ?_⟩
        rw [State.after?_append, run.reached, Option.bind_some, State.after?, after]
        rfl
      exact .running some_there longer
    | leave =>
      rw [next?] at step
      split at step
      · next gone =>
        cases step
        exact .answered some_there run gone
      · cases step
  | refused | nothing | answered => cases e <;> cases step

theorem Reached.after {c c' : Call σ ω} (h : Reached b world c) {events : List CallEvent}
    (run : c.after? b events = some c') : Reached b world c' := by
  induction events generalizing c with
  | nil =>
    cases run
    exact h
  | cons e rest ih =>
    obtain ⟨mid, step, run⟩ := Option.bind_eq_some_iff.mp run
    exact ih (h.next step) run

/-- What happens in the pool happens in the call. -/
theorem after?_pool {events : List Event} {s s' : State σ ω} (rest : List CallEvent)
    (run : s.after? b.deadline? events = some s') :
    (running s).after? b (events.map .pool ++ rest) = (running s').after? b rest := by
  induction events generalizing s with
  | nil =>
    cases run
    rfl
  | cons e events ih =>
    obtain ⟨mid, step, run⟩ := Option.bind_eq_some_iff.mp run
    rw [List.map_cons, List.cons_append, after?, next?, step, Option.map_some, Option.bind_some,
      ih run]

end Call

/-! ### What is returned -/

namespace Batch

variable {b : Batch σ ω} {world : ω}

/-- What a batch may return, in whatever order the workers and the driver move, with what was noted
until then and the world behind it. -/
def Returns (b : Batch σ ω) (world : ω) (answer : Except Error (List Outcome)) (log : List Note)
    (world' : ω) : Prop :=
  ∃ events, (Call.called [] world).after? b events = some (.returned answer log world')

theorem returns_refused {fault : Error} (found : b.fault? = some fault) :
    b.Returns world (.error fault) [] world :=
  ⟨[.check], by rw [Call.after?, Call.next?, found]; rfl⟩

theorem returns_nothing (accepted : b.fault? = none) (none_there : b.tasks = []) :
    b.Returns world (.ok []) [] world :=
  ⟨[.check], by
    rw [Call.after?, Call.next?, accepted]
    dsimp only
    rw [if_pos (List.isEmpty_iff.mpr none_there)]
    rfl⟩

theorem Run.returns {events : List Event} {s : State σ ω} (run : b.Run b.deadline? world events s)
    (some_there : b.tasks ≠ []) (gone : s.driver.isGone = true) :
    b.Returns world (.ok (b.results s)) s.log s.world := by
  have check : (Call.called [] world).next? b .check = some (.running (b.start world)) := by
    rw [Call.next?, run.accepted]
    exact if_neg (mt List.isEmpty_iff.mp some_there)
  refine ⟨.check :: (events.map .pool ++ [.leave]), ?_⟩
  rw [Call.after?, check, Option.bind_some, Call.after?_pool _ run.reached, Call.after?, Call.next?,
    if_pos gone]
  rfl

/-- A call returns because the batch is refused, because there is nothing to run, or because the
driver of its pool has answered. Before a pool is set up, nothing is noted and the world stays as it
is. -/
theorem Returns.cases {answer : Except Error (List Outcome)} {log : List Note} {world' : ω}
    (h : b.Returns world answer log world') :
    (∃ fault, b.fault? = some fault ∧ answer = .error fault ∧ log = [] ∧ world' = world) ∨
      (b.fault? = none ∧ b.tasks = [] ∧ answer = .ok [] ∧ log = [] ∧ world' = world) ∨
      ∃ events s, b.Run b.deadline? world events s ∧ s.driver.isGone = true ∧
        answer = .ok (b.results s) ∧ log = s.log ∧ world' = s.world := by
  obtain ⟨_, reached⟩ := h
  cases Call.Reached.called.after reached with
  | refused found => exact .inl ⟨_, found, rfl, rfl, rfl⟩
  | nothing accepted none_there => exact .inr (.inl ⟨accepted, none_there, rfl, rfl, rfl⟩)
  | answered some_there run gone => exact .inr (.inr ⟨_, _, run, gone, rfl, rfl, rfl⟩)

end Batch

end SmokeTest.Pool
