/-
Reports that were sent in time and are not believed all the same.

The driver looks at the clock before it looks into the channel. When it is late itself, it does not
receive what was sent while there was time. And when it waits until the deadline is reached, it does
not receive what is sent at this very moment.

* `SentInTime` — a report was sent while the clock was not past the deadline;
* `Overlooked` — the two ways in which the driver misses such a report;
* `reported_or_overlooked` — what was sent in time is reported, unless it was overlooked.

Design notes: when the deadline is over the driver stops for good, so what is in the channel or with
a worker at this moment is not received later. The clock does not go back, so a report that was sent
in time was sent before the driver could see that the clock was past the deadline.
-/
import SmokeTest.Proofs.Pool.Losses

namespace SmokeTest.Pool

variable {σ ω : Type}

namespace State

/-- The report was sent while the clock was not past the deadline. -/
def SentInTime (deadline : Option Nat) (s : State σ ω) (events : List Event) (i : Nat)
    (o : Outcome) : Prop :=
  ∃ mid, Through deadline s events mid ∧ .sent i o ∈ mid.log ∧ mid.isLate deadline = false

/-- How the driver misses a report. -/
inductive Overlooked (deadline : Option Nat) (s : State σ ω) (events : List Event) (i : Nat)
    (o : Outcome) : Prop
  /-- The driver looks at the clock when it is past the deadline, and the report is in the
  channel. -/
  | behind {mid : State σ ω} (moment : IsMoment deadline s events .poll mid)
      (late : mid.isLate deadline = true) (posted : (i, o) ∈ mid.channel) :
      Overlooked deadline s events i o
  /-- The driver stops waiting when the clock shows the deadline, and the report is not yet sent. -/
  | atDeadline {mid : State σ ω} (moment : IsMoment deadline s events .expire mid)
      (now : deadline = some mid.clock) (unsent : .sent i o ∉ mid.log) :
      Overlooked deadline s events i o

end State

namespace Batch

open State

variable {b : Batch σ ω} {deadline : Option Nat} {world : ω} {events : List Event} {s : State σ ω}
  {i : Nat} {o : Outcome}

/-- What the driver has received when it stops because of the deadline is all that it will have. -/
theorem Run.received_of_stopped (run : b.Run deadline world events s) {mid next : State σ ω}
    (through : Through deadline (b.start world) events mid)
    (rest : ∃ events, next.after? deadline events = some s)
    (stopped : next.driver.stopped? = some true) (log : next.log = mid.log)
    (received : (i, .received o) ∈ s.places) : (i, .received o) ∈ mid.places := by
  obtain ⟨_, rest⟩ := rest
  obtain ⟨_, _, _, reached⟩ := through
  rw [(ledger_of_run reached).received_iff, reportsReceived_eq_reportsOn, ← log,
    ← (stopped_of_run stopped rest).2, ← reportsReceived_eq_reportsOn]
  exact (ledger_of_run run.reached).received_iff.mp received

/-- What is overlooked is never received. -/
theorem Run.unreceived_of_overlooked (run : b.Run deadline world events s)
    (overlooked : Overlooked deadline (b.start world) events i o) :
    (i, .received o) ∉ s.places := by
  intro received
  cases overlooked with
  | @behind mid moment late posted =>
    obtain ⟨next, after, step, rest⟩ := moment.transition run.reached
    obtain ⟨_, _, _, reached⟩ := moment.through
    have ledger := ledger_of_run reached
    have posted : (i, .posted o) ∈ mid.places := mem_places.mpr posted
    cases step with
    | complete _ complete =>
      obtain ⟨_, received⟩ :=
        (collected_of_run reached).received ledger complete (ledger.lt_of_mem posted)
      cases ledger.unique posted received
    | late =>
      have received := run.received_of_stopped moment.through ⟨_, rest⟩ rfl rfl received
      cases ledger.unique posted received
    | wait _ _ early => cases early.symm.trans late
  | @atDeadline mid moment now unsent =>
    obtain ⟨next, after, step, rest⟩ := moment.transition run.reached
    obtain ⟨_, _, _, reached⟩ := moment.through
    cases step with
    | expire =>
      have received := run.received_of_stopped moment.through ⟨_, rest⟩ rfl rfl received
      exact unsent ((ledger_of_run reached).sent_of_received received)

/-- A driver that answers while a report is in the channel has stopped because of the deadline. -/
theorem Run.timedOut_of_posted (run : b.Run deadline world events s)
    (answered : s.driver.isGone = true) (posted : (i, .posted o) ∈ s.places) :
    s.driver.timedOut = true := by
  have ledger := ledger_of_run run.reached
  by_contra in_time
  have answered : s.driver = .answered false := by
    revert answered in_time
    cases s.driver <;> simp [Driver.isGone, Driver.timedOut]
  rcases run.settled answered with complete | forsaken
  · obtain ⟨_, received⟩ := complete i (ledger.lt_of_mem posted)
    cases ledger.unique posted received
  · exact not_posted forsaken.channel posted

/-- What is in the channel for good has been there since it was sent. -/
theorem Run.mem_channel_of_sent (run : b.Run deadline world events s)
    (posted : (i, .posted o) ∈ s.places) {mid : State σ ω}
    (through : Through deadline (b.start world) events mid) (sent : .sent i o ∈ mid.log) :
    (i, o) ∈ mid.channel := by
  have ledger := ledger_of_run run.reached
  obtain ⟨_, after⟩ := through.leads run.reached
  obtain ⟨_, _, _, reached⟩ := through
  rcases (ledger_of_run reached).sent (ledger.lt_of_mem posted) sent with there | received
  · exact mem_places.mp there
  · have received : .received i o ∈ s.log := (later_of_run after).log _ (mem_places.mp received)
    cases ledger.unique posted (mem_places.mpr received : (i, .received o) ∈ s.places)

/-- What was sent in time and is in the channel for good was overlooked, if the driver saw that the
deadline was over. -/
theorem Run.overlooked_of_posted (run : b.Run deadline world events s)
    (saw : SawDeadline deadline (b.start world) events)
    (sent : SentInTime deadline (b.start world) events i o)
    (posted : (i, .posted o) ∈ s.places) : Overlooked deadline (b.start world) events i o := by
  obtain ⟨d, mid, some, moment⟩ := saw
  have through : Through deadline (b.start world) events mid := by
    rcases moment with ⟨moment, _⟩ | ⟨moment, _⟩
    · exact moment.through
    · exact moment.through
  obtain ⟨early, early_through, sent, in_time⟩ := sent
  have not_past : early.clock ≤ d := by
    by_contra past
    rw [isLate_iff.mpr ⟨d, some, by omega⟩] at in_time
    cases in_time
  rcases early_through.total through with ⟨_, between⟩ | ⟨_, between⟩
  · -- the report was sent before
    have there := run.mem_channel_of_sent posted through ((later_of_run between).log _ sent)
    rcases moment with ⟨moment, _, past⟩ | ⟨_, _, channel, _⟩
    · exact .behind moment (isLate_iff.mpr ⟨d, some, past⟩) there
    · rw [channel] at there
      cases there
  · -- the report was sent after, so the clock stands still between the two
    have clock := (later_of_run between).clock
    rcases moment with ⟨_, _, past⟩ | ⟨moment, _, channel, due⟩
    · omega
    · refine .atDeadline moment ?_ fun before => ?_
      · rw [some, show d = mid.clock by omega]
      · have there := run.mem_channel_of_sent posted through before
        rw [channel] at there
        cases there

/-- **What was sent in time is reported, unless the driver overlooked it.** When the driver of an
accepted batch has answered and the report of a task was sent while the clock was not past the
deadline, either the driver overlooked the report and says that the task was cancelled after so many
seconds, or it did not and believes the report as far as it names the task. -/
theorem reported_or_overlooked (run : b.Run deadline world events s)
    (answered : s.driver.isGone = true) {t : Task σ ω} (get : b.tasks[i]? = some t)
    (sent : SentInTime deadline (b.start world) events i o) :
    ∃ r, (b.results s)[i]? = some r ∧
      (Overlooked deadline (b.start world) events i o ∧
          ExecError t.id 0 s!"cancelled after batch timeout of {b.timeoutSeconds} second(s)" r ∨
        ¬ Overlooked deadline (b.start world) events i o ∧ Believed t.id o r) := by
  have ledger := ledger_of_run run.reached
  have lt : i < b.tasks.length := (List.getElem?_eq_some_iff.mp get).1
  have sent_last : .sent i o ∈ s.log := by
    obtain ⟨early, through, sent, -⟩ := sent
    obtain ⟨_, rest⟩ := through.leads run.reached
    exact (later_of_run rest).log _ sent
  rcases ledger.sent lt sent_last with posted | received
  · have unreceived : ∀ o', (i, .received o') ∉ s.places := by
      intro o' received
      cases ledger.unique posted received
    have saw := run.saw answered lt (unreceived_iff.mp unreceived)
    have timedOut := run.timedOut_of_posted answered posted
    rw [timedOut] at saw
    refine ⟨_, run.result_of_nothing get unreceived, .inl
      ⟨run.overlooked_of_posted saw sent posted, ?_⟩⟩
    rw [timedOut]
    exact execError_overdue _ _
  · exact ⟨_, run.result_of_received get received, .inr
      ⟨fun overlooked => run.unreceived_of_overlooked overlooked received,
        believed_settle _ _ _ _⟩⟩

/-- One worker for one task, and one second for both. -/
def hastyBatch : Batch Unit Unit where
  tasks := [passingTask "a" "a" false]
  poolSize := 1
  timeoutSeconds := 1

/-- The report is sent at once, but the driver looks for it when the second is over. -/
def backlogEvents : List Event :=
  List.replicate 13 (.work 0) ++ [.tick 2000000000, .poll, .cancel, .answer]

/-- The driver stops waiting and the report is sent at the moment at which the second is over. -/
def lastMomentEvents : List Event :=
  .poll :: List.replicate 12 (.work 0) ++ [.tick 1000000000, .expire, .work 0] ++
    [.cancel, .answer]

/-- What the task reports. -/
def hastyReport : Outcome := ⟨"a", .pass, 7, "done"⟩

/-- What is said of the task instead. -/
def hastyOutcome : Outcome :=
  ⟨"a", .execError, 0, "EXEC_ERROR: id [a], cancelled after batch timeout of 1 second(s)"⟩

/-- The events lead to an answer that the task was cancelled, though its report was sent in time. -/
def Missed (events : List Event) : Prop :=
  ∃ s, hastyBatch.Run hastyBatch.deadline? () events s ∧ s.driver.isGone = true ∧
    hastyBatch.results s = [hastyOutcome] ∧
    SentInTime hastyBatch.deadline? (hastyBatch.start ()) events 0 hastyReport ∧
    Overlooked hastyBatch.deadline? (hastyBatch.start ()) events 0 hastyReport

theorem missed_in_hastyBatch : Missed backlogEvents ∧ Missed lastMomentEvents := by
  have in_time : ∀ {events mid} {clock : Nat},
      Through hastyBatch.deadline? (hastyBatch.start ()) events mid →
      .sent 0 hastyReport ∈ mid.log → mid.clock = clock → clock ≤ 1000000000 →
      SentInTime hastyBatch.deadline? (hastyBatch.start ()) events 0 hastyReport := by
    intro events mid clock through sent shows le
    refine ⟨mid, through, sent, ?_⟩
    rw [isLate, shows, show hastyBatch.deadline? = some 1000000000 from rfl]
    simpa using le
  -- the report would say something else than what is said
  have overlooked : ∀ {events s}, hastyBatch.Run hastyBatch.deadline? () events s →
      s.driver.isGone = true → hastyBatch.results s = [hastyOutcome] →
      SentInTime hastyBatch.deadline? (hastyBatch.start ()) events 0 hastyReport →
      Overlooked hastyBatch.deadline? (hastyBatch.start ()) events 0 hastyReport := by
    intro events s run answered results sent
    have get : hastyBatch.tasks[0]? = some (passingTask "a" "a" false) := rfl
    obtain ⟨r, said, ⟨overlooked, -⟩ | ⟨-, reported⟩⟩ :=
      reported_or_overlooked run answered get sent
    · exact overlooked
    · rw [results] at said
      cases Option.some.inj said
      cases reported with
      | foreign names => exact absurd rfl names
  constructor
  · obtain ⟨s, run, answered, results⟩ :
        ∃ s, hastyBatch.Run hastyBatch.deadline? () backlogEvents s ∧ s.driver.isGone = true ∧
          hastyBatch.results s = [hastyOutcome] :=
      ⟨_, ⟨rfl, rfl⟩, rfl, rfl⟩
    have sent : SentInTime hastyBatch.deadline? (hastyBatch.start ()) backlogEvents 0
        hastyReport :=
      in_time ⟨List.replicate 13 (.work 0), _, rfl, rfl⟩ List.mem_cons_self rfl (by decide)
    exact ⟨s, run, answered, results, sent, overlooked run answered results sent⟩
  · obtain ⟨s, run, answered, results⟩ :
        ∃ s, hastyBatch.Run hastyBatch.deadline? () lastMomentEvents s ∧
          s.driver.isGone = true ∧ hastyBatch.results s = [hastyOutcome] :=
      ⟨_, ⟨rfl, rfl⟩, rfl, rfl⟩
    have sent : SentInTime hastyBatch.deadline? (hastyBatch.start ()) lastMomentEvents 0
        hastyReport :=
      in_time ⟨.poll :: List.replicate 12 (.work 0) ++ [.tick 1000000000, .expire, .work 0], _,
        rfl, rfl⟩ List.mem_cons_self rfl (by decide)
    exact ⟨s, run, answered, results, sent, overlooked run answered results sent⟩

end Batch

end SmokeTest.Pool
