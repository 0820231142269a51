/-
How long the driver waits.

* `Collector.Tracks` — what the reports received so far leave in the slots and in the counter;
* `Collector.tracks_receiveAll` — every sequence of reports leaves just that;
* `State.next?_poll_collected_iff` — the driver stops by itself exactly if every slot is filled;
* `State.Loop` — what holds of a driver that waits, and of one that has stopped waiting;
* `State.exists_run_receiving` — every sequence of reports is received in some run;
* `State.loop_of_run` — the loop of the driver keeps count, whatever it receives.

Design notes: nothing is assumed of where reports come from. The driver may begin with any workers
and with any reports in the channel, so an index may come twice, or may be none of the batch.
-/
import Mathlib.Data.List.Infix
import SmokeTest.Proofs.Pool.Collecting

namespace SmokeTest.Pool

variable {σ ω : Type}

/-! ### Slots and counter -/

namespace Collector

/-- What the reports received so far leave in the slots and in the counter. -/
structure Tracks (n : Nat) (reports : List (Nat × Outcome)) (c : Collector) : Prop where
  /-- There is a slot for each task. -/
  length : c.slots.length = n
  /-- The counter is the number of empty slots. -/
  counts : c.outstanding = c.slots.countP Option.isNone
  /-- A slot holds the last report received for its task. -/
  holds : ∀ i < n, c.slots[i]? = some (reportsOn reports i).getLast?
  /-- It is empty as long as there is no such report. -/
  vacant : ∀ i < n, c.slots[i]? = some none ↔ ∀ r ∈ reports, r.1 ≠ i
  /-- A report that fills a slot lowers the counter, which is not zero before it. -/
  fills : ∀ i o, c.slots[i]? = some none → (c.receive i o).outstanding + 1 = c.outstanding
  /-- A report that replaces another one leaves the counter as it is. -/
  replaces : ∀ i held o, c.slots[i]? = some (some held) →
    (c.receive i o).outstanding = c.outstanding
  /-- A report for no task changes nothing. -/
  unknown : ∀ i o, n ≤ i → c.receive i o = c

theorem reportsOn_eq_nil_iff {reports : List (Nat × Outcome)} {i : Nat} :
    reportsOn reports i = [] ↔ ∀ r ∈ reports, r.1 ≠ i := by
  simp [reportsOn]

theorem tracks_receiveAll (n : Nat) (reports : List (Nat × Outcome)) :
    ((empty n).receiveAll reports).Tracks n reports := by
  have slots := slots_receiveAll n reports
  have counts := counts_receiveAll n reports
  generalize (empty n).receiveAll reports = c at slots counts
  have length : c.slots.length = n := by rw [slots, List.length_map, List.length_range]
  have holds : ∀ i < n, c.slots[i]? = some (reportsOn reports i).getLast? := by
    intro i lt
    rw [slots, List.getElem?_map, List.getElem?_range lt, Option.map_some]
  constructor
  · exact length
  · exact counts
  · exact holds
  · intro i lt
    rw [holds i lt, Option.some.injEq, List.getLast?_eq_none_iff, reportsOn_eq_nil_iff]
  · intro i o vacant
    have some_empty : c.outstanding ≠ 0 :=
      counts.outstanding_ne_zero_iff.mpr (List.mem_of_getElem? vacant)
    simp only [receive, vacant]
    omega
  · intro i held o filled
    simp only [receive, filled]
  · intro i o beyond
    have none_there : c.slots[i]? = none := List.getElem?_eq_none (by omega)
    simp only [receive, none_there]

end Collector

/-! ### The loop -/

namespace State

/-- What holds of the driver, which began to wait in `s₀`, in the state that a run leads to. -/
structure Loop (n : Nat) (deadline : Option Nat) (s₀ : State σ ω) (events : List Event)
    (s : State σ ω) : Prop where
  tracks : s.collector.Tracks n (receipts s.log)
  /-- It waits only while a slot is empty. -/
  waits : s.driver = .waiting → none ∈ s.collector.slots
  /-- As long as it has not stopped, the next time it looks it stops by itself exactly if every slot
  is filled, and then it does not say that the time was over. -/
  ends : s.driver.stopped? = none →
    (s.next? deadline .poll = some { s with driver := .collected false } ↔
      ∀ slot ∈ s.collector.slots, slot.isSome = true)
  /-- If it has stopped, then by itself with every slot filled; or a slot was empty when it saw that
  the deadline was over, which is when it says so, or that nobody was left. -/
  ended : ∀ timedOut, s.driver.stopped? = some timedOut →
    Ended deadline s₀ events s.collector timedOut

/-- The next time that the driver looks it stops by itself exactly if every slot is filled. -/
theorem next?_poll_collected_iff {deadline : Option Nat} {s : State σ ω}
    (counts : s.collector.Counts) (waits : s.driver = .waiting → none ∈ s.collector.slots)
    (unstopped : s.driver.stopped? = none) :
    s.next? deadline .poll = some { s with driver := .collected false } ↔
      ∀ slot ∈ s.collector.slots, slot.isSome = true := by
  rw [next?_eq_some_iff, ← counts.outstanding_eq_zero_iff]
  constructor
  · intro step
    cases step with
    | complete _ outstanding => exact outstanding
  · intro outstanding
    refine .complete ?_ outstanding
    cases driver : s.driver with
    | collecting => rfl
    | waiting => exact absurd outstanding (counts.outstanding_ne_zero_iff.mpr (waits driver))
    | _ =>
      rw [driver] at unstopped
      cases unstopped

/-- The driver begins to wait, with reports in the channel and without workers. -/
def backlog (n : Nat) (reports : List (Nat × Outcome)) : State Unit Unit where
  queue := []
  workers := []
  channel := reports
  collector := .empty n
  world := ()

theorem opening_backlog (n : Nat) (reports : List (Nat × Outcome)) :
    Opening n (backlog n reports) :=
  ⟨rfl, rfl, rfl⟩

/-- Every sequence of reports is received in some run, if a slot is empty up to its end. -/
theorem exists_run_receiving (n : Nat) (deadline : Option Nat) (reports : List (Nat × Outcome))
    (vacant : ∀ front, front <+: reports → front ≠ reports →
      none ∈ ((Collector.empty n).receiveAll front).slots) (rest : List (Nat × Outcome)) :
    ∃ events s, (backlog n (reports ++ rest)).after? deadline events = some s ∧
      receipts s.log = reports ∧ s.channel = rest ∧ s.driver = .collecting ∧ s.clock = 0 := by
  -- the driver looks and receives once for each report, so the induction is on the last one
  induction reports using List.reverseRecOn generalizing rest with
  | nil => exact ⟨[], backlog n rest, rfl, rfl, rfl, rfl, rfl⟩
  | append_singleton front report ih =>
    have shorter : front ≠ front ++ [report] := by simp
    have earlier : ∀ front', front' <+: front → front' ≠ front →
        none ∈ ((Collector.empty n).receiveAll front').slots := by
      intro front' within other
      refine vacant front' (within.trans (List.prefix_append _ _)) ?_
      rintro rfl
      exact absurd within.length_le (by simp)
    obtain ⟨events, s, run, received, channel, driver, clock⟩ := ih earlier (report :: rest)
    have collector := collector_of_run (opening_backlog n _) run
    have outstanding : s.collector.outstanding ≠ 0 := by
      have counts := (collected_of_opening (opening_backlog n _) run).counts
      rw [counts.outstanding_ne_zero_iff, collector, received]
      exact vacant front (List.prefix_append _ _) shorter
    have early : s.isLate deadline = false := by
      cases deadline <;> simp [isLate, clock]
    have looked := after?_concat.mpr ⟨s, run, .wait driver outstanding early⟩
    have done := after?_concat.mpr ⟨_, looked, .receive rfl channel⟩
    rw [List.append_assoc, List.singleton_append]
    refine ⟨_, _, done, ?_, rfl, rfl, clock⟩
    rw [note, receipts_cons, received]

/-- **The driver keeps count.** Whatever reports it receives, and in whatever order: there is a slot
for each task, with the last report that was received for the task, and the counter is the number of
empty slots, so it is never lowered below zero. The driver stops by itself exactly if every slot is
filled, and it says that the time was over only if it saw this while a slot was empty. Every
sequence of reports is received in some run, if a slot is empty up to its end. -/
theorem loop_of_run (n : Nat) (deadline : Option Nat) :
    (∀ (s₀ : State σ ω) events s, Opening n s₀ → s₀.after? deadline events = some s →
      Loop n deadline s₀ events s) ∧
    ∀ reports : List (Nat × Outcome), (∀ front, front <+: reports → front ≠ reports →
        none ∈ ((Collector.empty n).receiveAll front).slots) →
      ∃ events s, (backlog n reports).after? deadline events = some s ∧
        receipts s.log = reports ∧ s.driver = .collecting := by
  constructor
  · intro s₀ events s opening run
    have collector := collector_of_run opening run
    have counts := (collected_of_opening opening run).counts
    obtain ⟨waits, ended⟩ := ended_of_run opening events s run
    refine ⟨?_, waits, next?_poll_collected_iff counts waits, ended⟩
    rw [collector]
    exact Collector.tracks_receiveAll n _
  · intro reports vacant
    obtain ⟨events, s, run, received, -, driver, -⟩ :=
      exists_run_receiving n deadline reports vacant []
    rw [List.append_nil] at run
    exact ⟨events, s, run, received, driver⟩

/-- Reports on two tasks: one that is replaced, one for no task, and one that comes last. -/
def strayReports : List (Nat × Outcome) :=
  [(0, ⟨"a", .pass, 1, "first"⟩), (5, ⟨"b", .pass, 2, "stray"⟩), (0, ⟨"a", .fail, 3, "second"⟩),
    (1, ⟨"b", .pass, 4, "last"⟩)]

/-- The driver looks and receives, so many times. -/
def rounds (k : Nat) : List Event :=
  (List.replicate k [Event.poll, .receive]).flatten

/-- When all four reports are received, the driver stops by itself; when the time is over after
three of them, it says so, and the second slot is empty. -/
theorem loop_of_strayReports :
    Opening 2 (backlog 2 strayReports) ∧
      (∀ front, front <+: strayReports → front ≠ strayReports →
        none ∈ ((Collector.empty 2).receiveAll front).slots) ∧
      (∃ events s, (backlog 2 strayReports).after? (some 10) events = some s ∧
        receipts s.log = strayReports ∧ s.driver = .collecting) ∧
      (∃ s, (backlog 2 strayReports).after? (some 10) (rounds 4 ++ [.poll]) = some s ∧
        s.collector.slots.map (Option.map Outcome.message) = [some "second", some "last"] ∧
        Ended (some 10) (backlog 2 strayReports) (rounds 4 ++ [.poll]) s.collector false) ∧
      ∃ s, (backlog 2 strayReports).after? (some 10) (rounds 3 ++ [.tick 11, .poll]) = some s ∧
        s.collector.slots.map (Option.map Outcome.message) = [some "second", none] ∧
        s.collector.outstanding = 1 ∧
        Ended (some 10) (backlog 2 strayReports) (rounds 3 ++ [.tick 11, .poll]) s.collector
          true := by
  have opening := opening_backlog 2 strayReports
  have vacant : ∀ front ∈ strayReports.inits, front ≠ strayReports →
      none ∈ ((Collector.empty 2).receiveAll front).slots := by decide
  simp only [List.mem_inits] at vacant
  obtain ⟨holds, received⟩ := @loop_of_run Unit Unit 2 (some 10)
  exact ⟨opening, vacant, received _ vacant,
    ⟨_, rfl, rfl, (holds _ _ _ opening rfl).ended _ rfl⟩,
    ⟨_, rfl, rfl, rfl, (holds _ _ _ opening rfl).ended _ rfl⟩⟩

end State

end SmokeTest.Pool
