/-
What the driver has collected, and why it stops.

The driver keeps a slot for each task and counts the empty ones. It stops waiting when no slot is
empty, when it sees that the deadline is past, or when it sees that no worker is left.

* `Collector.slots_receiveAll` — a slot holds the last report received for its task;
* `Collector.counts_receiveAll` — the counter is the number of empty slots;
* `collector_of_run` — what the driver has is what it received, one report after the other;
* `ended_of_run` — how the driver came to stop waiting;
* `stopped_of_run` — once it has stopped, it receives nothing any more.

Design notes: the driver stops at a moment of the run, that is an event of it together with the
state in which it happened. What held at this moment may be true no longer when the driver answers.
-/
import SmokeTest.Proofs.Pool.Transition

namespace SmokeTest.Pool

variable {σ ω : Type}

/-! ### Slots -/

namespace Collector

theorem slots_receive (c : Collector) (index : Nat) (o : Outcome) :
    (c.receive index o).slots = c.slots.set index (some o) := by
  rw [receive]
  split
  · next h => exact (List.set_eq_of_length_le (List.getElem?_eq_none_iff.mp h)).symm
  · rfl
  · rfl

/-- Whether the counter is the number of empty slots. -/
def Counts (c : Collector) : Prop :=
  c.outstanding = c.slots.countP Option.isNone

theorem counts_empty (n : Nat) : (empty n).Counts := by
  rw [Counts, empty, List.countP_eq_length.mpr]
  · rw [List.length_replicate]
  · intro slot h
    rw [List.eq_of_mem_replicate h]
    rfl

/-- A report fills an empty slot, which the counter follows, or replaces the report of a slot. -/
theorem Counts.receive {c : Collector} (h : c.Counts) (index : Nat) (o : Outcome) :
    (c.receive index o).Counts := by
  rw [Counts] at h
  rw [Counts, slots_receive, Collector.receive]
  cases hslot : c.slots[index]? with
  | none =>
    -- a report for no task changes neither the slots nor the counter
    rw [List.set_eq_of_length_le (List.getElem?_eq_none_iff.mp hslot)]
    exact h
  | some slot =>
    obtain ⟨lt, get⟩ := List.getElem?_eq_some_iff.mp hslot
    cases slot with
    | none =>
      simp only
      rw [List.countP_set lt, get, h]
      simp
    | some held =>
      simp only
      rw [List.countP_set lt, get, h]
      simp

theorem Counts.outstanding_eq_zero_iff {c : Collector} (h : c.Counts) :
    c.outstanding = 0 ↔ ∀ slot ∈ c.slots, slot.isSome = true := by
  rw [Counts] at h
  simp [h, List.countP_eq_zero, Option.isSome_iff_ne_none]

theorem Counts.outstanding_ne_zero_iff {c : Collector} (h : c.Counts) :
    c.outstanding ≠ 0 ↔ none ∈ c.slots := by
  rw [Counts] at h
  rw [h, Nat.ne_zero_iff_zero_lt, List.countP_pos_iff]
  simp

theorem receiveAll_concat (c : Collector) (reports : List (Nat × Outcome)) (index : Nat)
    (o : Outcome) :
    c.receiveAll (reports ++ [(index, o)]) = (c.receiveAll reports).receive index o := by
  simp [receiveAll]

/-- The counter is the number of empty slots, whatever was received. -/
theorem counts_receiveAll (n : Nat) (reports : List (Nat × Outcome)) :
    ((empty n).receiveAll reports).Counts := by
  induction reports using List.reverseRecOn with
  | nil => exact counts_empty n
  | append_singleton reports report ih =>
    rw [receiveAll_concat]
    exact ih.receive report.1 report.2

/-- What was received for the task with the index, in its order. -/
def reportsOn (reports : List (Nat × Outcome)) (index : Nat) : List Outcome :=
  (reports.filter fun r => r.1 = index).map Prod.snd

theorem reportsOn_concat (reports : List (Nat × Outcome)) (report : Nat × Outcome) (index : Nat) :
    reportsOn (reports ++ [report]) index =
      reportsOn reports index ++ if report.1 = index then [report.2] else [] := by
  by_cases same : report.1 = index <;> simp [reportsOn, same]

/-- A slot holds the last report received for its task. -/
theorem slots_receiveAll (n : Nat) (reports : List (Nat × Outcome)) :
    ((empty n).receiveAll reports).slots =
      (List.range n).map fun i => (reportsOn reports i).getLast? := by
  induction reports using List.reverseRecOn with
  | nil =>
    refine List.ext_getElem? fun i => ?_
    by_cases lt : i < n <;> simp [receiveAll, empty, reportsOn, lt]
  | append_singleton reports report ih =>
    obtain ⟨index, o⟩ := report
    rw [receiveAll_concat, slots_receive, ih]
    refine List.ext_getElem? fun i => ?_
    rw [List.getElem?_set, List.getElem?_map, List.getElem?_map]
    by_cases lt : i < n
    · by_cases same : index = i <;> simp [lt, same, reportsOn_concat]
    · by_cases same : index = i <;> simp [lt, same]

end Collector

/-- Whether the driver stopped because of the deadline; none as long as it has not stopped. -/
def Driver.stopped? : Driver → Option Bool
  | collecting | waiting => none
  | collected timedOut | closing timedOut | answered timedOut => some timedOut

namespace State

/-- What the driver received, in its order. -/
def receipts (log : List Note) : List (Nat × Outcome) :=
  log.reverse.filterMap fun
    | .received i o => some (i, o)
    | _ => none

theorem receipts_cons (n : Note) (log : List Note) :
    receipts (n :: log) = receipts log ++
      match n with
      | .received i o => [(i, o)]
      | _ => [] := by
  rw [receipts, List.reverse_cons, List.filterMap_append]
  cases n <;> rfl

theorem reportsReceived_eq_reportsOn (log : List Note) (index : Nat) :
    reportsReceived log index = Collector.reportsOn (receipts log) index := by
  induction log with
  | nil => rfl
  | cons n log ih =>
    rw [reportsReceived, List.reverse_cons, List.filterMap_append, ← reportsReceived, ih,
      receipts_cons]
    cases n with
    | received i o =>
      rw [Collector.reportsOn_concat]
      by_cases same : i = index <;> simp [same]
    | _ => simp

/-- The slots hold what the log says that was received, and the empty ones are counted. -/
structure Collected (n : Nat) (s : State σ ω) : Prop where
  slots : s.collector.slots = (List.range n).map fun i => (reportsReceived s.log i).getLast?
  counts : s.collector.Counts

theorem Move.collector {s s' : State σ ω} {w : Nat} {phase : Worker σ ω}
    (move : Move s w phase s') : s'.collector = s.collector := by
  cases move <;> rfl

theorem Move.driver {s s' : State σ ω} {w : Nat} {phase : Worker σ ω}
    (move : Move s w phase s') : s'.driver = s.driver := by
  cases move <;> rfl

theorem Move.receipts {s s' : State σ ω} {w : Nat} {phase : Worker σ ω}
    (move : Move s w phase s') : receipts s'.log = receipts s.log := by
  cases move <;> simp [note, setWorker, receipts_cons]

/-- The driver begins to wait for reports on so many tasks. Nothing is said of the workers and of
what they will report, or have reported already. -/
structure Opening (n : Nat) (s : State σ ω) : Prop where
  collector : s.collector = .empty n
  driver : s.driver = .collecting
  nothing : receipts s.log = []

theorem opening_start (tasks : List (Task σ ω)) (poolSize : Nat) (world : ω) :
    Opening tasks.length (start tasks poolSize world) :=
  ⟨rfl, rfl, rfl⟩

/-- What the driver has is what it received, one report after the other. -/
theorem collector_of_run {n : Nat} {deadline : Option Nat} {s₀ : State σ ω} {events : List Event}
    {s : State σ ω} (opening : Opening n s₀) (run : s₀.after? deadline events = some s) :
    s.collector = (Collector.empty n).receiveAll (receipts s.log) := by
  refine after?_induct
    (p := fun _ s => s.collector = (Collector.empty n).receiveAll (receipts s.log)) ?_ ?_
    events s run
  · rw [opening.collector, opening.nothing]
    rfl
  · intro _ _ mid s _ h step
    -- only a report that is received touches the collector and what the log says of it
    cases step with
    | work here move => rw [move.collector, move.receipts, h]
    | receive driver channel =>
      rw [note, receipts_cons, Collector.receiveAll_concat, ← h]
    | cancel =>
      rw [note, receipts_cons, List.append_nil, ← h]
    | tick | complete | late | wait | expire | disconnect | answer => exact h

theorem collected_of_opening {n : Nat} {deadline : Option Nat} {s₀ : State σ ω}
    {events : List Event} {s : State σ ω} (opening : Opening n s₀)
    (run : s₀.after? deadline events = some s) : Collected n s := by
  have collector := collector_of_run opening run
  constructor
  · simp only [reportsReceived_eq_reportsOn]
    rw [collector, Collector.slots_receiveAll]
  · rw [collector]
    exact Collector.counts_receiveAll n _

theorem collected_of_run {deadline : Option Nat} {tasks : List (Task σ ω)} {poolSize : Nat}
    {world : ω} {events : List Event} {s : State σ ω}
    (run : (start tasks poolSize world).after? deadline events = some s) :
    Collected tasks.length s :=
  collected_of_opening (opening_start tasks poolSize world) run

/-! ### Why the driver stops -/

/-- In the run from `s` by the events, the event happens in the state `mid`. -/
def IsMoment (deadline : Option Nat) (s : State σ ω) (events : List Event) (e : Event)
    (mid : State σ ω) : Prop :=
  ∃ before after, events = before ++ e :: after ∧ s.after? deadline before = some mid

theorem IsMoment.concat {deadline : Option Nat} {s mid : State σ ω} {events : List Event}
    {e : Event} (h : IsMoment deadline s events e mid) (last : Event) :
    IsMoment deadline s (events ++ [last]) e mid := by
  obtain ⟨before, after, rfl, run⟩ := h
  exact ⟨before, after ++ [last], by simp, run⟩

theorem IsMoment.through {deadline : Option Nat} {s mid : State σ ω} {events : List Event}
    {e : Event} (h : IsMoment deadline s events e mid) : Through deadline s events mid := by
  obtain ⟨before, after, split, reached⟩ := h
  exact ⟨before, e :: after, split, reached⟩

/-- What happens in a run leads on to its end. -/
theorem IsMoment.transition {deadline : Option Nat} {s s' mid : State σ ω} {events : List Event}
    {e : Event} (h : IsMoment deadline s events e mid)
    (run : s.after? deadline events = some s') :
    ∃ next after, Transition deadline mid e next ∧ next.after? deadline after = some s' := by
  obtain ⟨before, after, rfl, reached⟩ := h
  rw [after?_append, reached, Option.bind_some, after?, Option.bind_eq_some_iff] at run
  obtain ⟨next, step, rest⟩ := run
  exact ⟨next, after, next?_eq_some_iff.mp step, rest⟩

/-- There is a deadline, and the driver saw that it was over: when it looked at the clock before
waiting, or while it waited and there was nothing to receive. -/
def SawDeadline (deadline : Option Nat) (s : State σ ω) (events : List Event) : Prop :=
  ∃ d mid, deadline = some d ∧
    (IsMoment deadline s events .poll mid ∧ mid.driver = .collecting ∧ d < mid.clock ∨
      IsMoment deadline s events .expire mid ∧ mid.driver = .waiting ∧ mid.channel = [] ∧
        d ≤ mid.clock)

/-- The driver waited, and saw that there was nothing to receive and that every worker had
stopped. -/
def SawNobody (deadline : Option Nat) (s : State σ ω) (events : List Event) : Prop :=
  ∃ mid, IsMoment deadline s events .disconnect mid ∧ mid.driver = .waiting ∧ mid.channel = [] ∧
    ∀ w ∈ mid.workers, w.isGone = true

theorem SawDeadline.concat {deadline : Option Nat} {s : State σ ω} {events : List Event}
    (h : SawDeadline deadline s events) (last : Event) :
    SawDeadline deadline s (events ++ [last]) := by
  obtain ⟨d, mid, some, ⟨moment, rest⟩ | ⟨moment, rest⟩⟩ := h
  · exact ⟨d, mid, some, .inl ⟨moment.concat last, rest⟩⟩
  · exact ⟨d, mid, some, .inr ⟨moment.concat last, rest⟩⟩

theorem SawNobody.concat {deadline : Option Nat} {s : State σ ω} {events : List Event}
    (h : SawNobody deadline s events) (last : Event) : SawNobody deadline s (events ++ [last]) := by
  obtain ⟨mid, moment, rest⟩ := h
  exact ⟨mid, moment.concat last, rest⟩

theorem isLate_iff {deadline : Option Nat} {s : State σ ω} :
    s.isLate deadline = true ↔ ∃ d, deadline = some d ∧ d < s.clock := by
  cases deadline <;> simp [isLate]

theorem isDue_iff {deadline : Option Nat} {s : State σ ω} :
    s.isDue deadline = true ↔ ∃ d, deadline = some d ∧ d ≤ s.clock := by
  cases deadline <;> simp [isDue]

/-- How the driver that has received `c` came to stop waiting, and whether it says that the time was
over. It stopped by itself with all slots filled; or a slot was empty when it saw that the deadline
was over, or that nobody was left. -/
inductive Ended (deadline : Option Nat) (s₀ : State σ ω) (events : List Event) (c : Collector) :
    Bool → Prop
  | full {mid : State σ ω} (moment : IsMoment deadline s₀ events .poll mid)
      (driver : mid.driver = .collecting) (collector : mid.collector = c)
      (filled : ∀ slot ∈ c.slots, slot.isSome = true) : Ended deadline s₀ events c false
  | late {mid : State σ ω} {d : Nat} (moment : IsMoment deadline s₀ events .poll mid)
      (driver : mid.driver = .collecting) (collector : mid.collector = c) (vacant : none ∈ c.slots)
      (some : deadline = some d) (past : d < mid.clock) : Ended deadline s₀ events c true
  | expired {mid : State σ ω} {d : Nat} (moment : IsMoment deadline s₀ events .expire mid)
      (driver : mid.driver = .waiting) (collector : mid.collector = c) (vacant : none ∈ c.slots)
      (channel : mid.channel = []) (some : deadline = some d) (reached : d ≤ mid.clock) :
      Ended deadline s₀ events c true
  | nobody {mid : State σ ω} (moment : IsMoment deadline s₀ events .disconnect mid)
      (driver : mid.driver = .waiting) (collector : mid.collector = c) (vacant : none ∈ c.slots)
      (channel : mid.channel = []) (gone : ∀ w ∈ mid.workers, w.isGone = true) :
      Ended deadline s₀ events c false

theorem Ended.concat {deadline : Option Nat} {s₀ : State σ ω} {before : List Event}
    {c : Collector} {timedOut : Bool} (h : Ended deadline s₀ before c timedOut) (last : Event) :
    Ended deadline s₀ (before ++ [last]) c timedOut := by
  cases h with
  | full moment driver collector filled =>
    exact .full (moment.concat last) driver collector filled
  | late moment driver collector vacant some past =>
    exact .late (moment.concat last) driver collector vacant some past
  | expired moment driver collector vacant channel some reached =>
    exact .expired (moment.concat last) driver collector vacant channel some reached
  | nobody moment driver collector vacant channel gone =>
    exact .nobody (moment.concat last) driver collector vacant channel gone

theorem Ended.sawDeadline {deadline : Option Nat} {s₀ : State σ ω} {events : List Event}
    {c : Collector} (h : Ended deadline s₀ events c true) : SawDeadline deadline s₀ events := by
  cases h with
  | late moment driver _ _ some past => exact ⟨_, _, some, .inl ⟨moment, driver, past⟩⟩
  | expired moment driver _ _ channel some reached =>
    exact ⟨_, _, some, .inr ⟨moment, driver, channel, reached⟩⟩

theorem Ended.sawNobody {deadline : Option Nat} {s₀ : State σ ω} {events : List Event}
    {c : Collector} (h : Ended deadline s₀ events c false) (vacant : none ∈ c.slots) :
    SawNobody deadline s₀ events := by
  cases h with
  | full _ _ _ filled => cases filled none vacant
  | nobody moment driver _ _ channel gone => exact ⟨_, moment, driver, channel, gone⟩

/-- A driver that waits has an empty slot, and one that has stopped waiting did so in one of these
ways. -/
theorem ended_of_run {n : Nat} {deadline : Option Nat} {s₀ : State σ ω} (opening : Opening n s₀) :
    ∀ events s, s₀.after? deadline events = some s →
      (s.driver = .waiting → none ∈ s.collector.slots) ∧
        ∀ timedOut, s.driver.stopped? = some timedOut →
          Ended deadline s₀ events s.collector timedOut := by
  refine after?_induct ?_ ?_
  · rw [opening.driver]
    exact ⟨nofun, nofun⟩
  · intro before e mid s run ih step
    obtain ⟨waiting, ended⟩ := ih
    have now : IsMoment deadline s₀ (before ++ [e]) e mid := ⟨before, [], rfl, run⟩
    have counts := (collected_of_opening opening run).counts
    -- four transitions stop the driver; the others keep the way in which it has stopped
    cases step with
    | tick nanos => exact ⟨waiting, fun _ stopped => (ended _ stopped).concat _⟩
    | work here move =>
      rw [move.driver, move.collector]
      exact ⟨waiting, fun _ stopped => (ended _ stopped).concat _⟩
    | complete driver outstanding =>
      refine ⟨nofun, ?_⟩
      rintro _ ⟨⟩
      exact .full now driver rfl (counts.outstanding_eq_zero_iff.mp outstanding)
    | late driver outstanding late =>
      obtain ⟨d, some, past⟩ := isLate_iff.mp late
      refine ⟨nofun, ?_⟩
      rintro _ ⟨⟩
      exact .late now driver rfl (counts.outstanding_ne_zero_iff.mp outstanding) some past
    | wait driver outstanding =>
      exact ⟨fun _ => counts.outstanding_ne_zero_iff.mp outstanding, nofun⟩
    | receive => exact ⟨nofun, nofun⟩
    | expire driver channel due =>
      obtain ⟨d, some, reached⟩ := isDue_iff.mp due
      refine ⟨nofun, ?_⟩
      rintro _ ⟨⟩
      exact .expired now driver rfl (waiting driver) channel some reached
    | disconnect driver channel gone =>
      refine ⟨nofun, ?_⟩
      rintro _ ⟨⟩
      exact .nobody now driver rfl (waiting driver) channel (List.all_eq_true.mp gone)
    | cancel driver | answer driver =>
      rw [driver] at ended
      exact ⟨nofun, fun _ stopped => (ended _ stopped).concat _⟩

/-- What the driver saw of the deadline the clock still shows. -/
theorem SawDeadline.isDue {deadline : Option Nat} {s₀ s : State σ ω} {events : List Event}
    (h : SawDeadline deadline s₀ events) (run : s₀.after? deadline events = some s) :
    s.isDue deadline = true := by
  obtain ⟨d, mid, some, seen⟩ := h
  have expired : ∀ {e}, IsMoment deadline s₀ events e mid → d ≤ mid.clock →
      s.isDue deadline = true := by
    intro e moment le
    obtain ⟨_, between⟩ := moment.through.leads run
    exact isDue_iff.mpr ⟨d, some, Nat.le_trans le (later_of_run between).clock⟩
  rcases seen with ⟨moment, -, lt⟩ | ⟨moment, -, -, le⟩
  · exact expired moment (Nat.le_of_lt lt)
  · exact expired moment le

/-- As long as the deadline is not reached, a driver that answers has not regarded it. -/
theorem answered_of_not_due {n : Nat} {deadline : Option Nat} {s₀ s : State σ ω}
    {events : List Event} (opening : Opening n s₀) (run : s₀.after? deadline events = some s)
    (gone : s.driver.isGone = true) (early : s.isDue deadline = false) :
    s.driver = .answered false := by
  cases answered : s.driver with
  | answered timedOut =>
    cases timedOut with
    | false => rfl
    | true =>
      have ended := (ended_of_run opening events s run).2 true (by rw [answered]; rfl)
      cases early.symm.trans (ended.sawDeadline.isDue run)
  | _ =>
    rw [answered] at gone
    cases gone

/-- A driver that has stopped waiting does not start again, and it receives nothing any more. -/
theorem stopped_of_run {deadline : Option Nat} {s s' : State σ ω} {events : List Event}
    {timedOut : Bool} (stopped : s.driver.stopped? = some timedOut)
    (run : s.after? deadline events = some s') :
    s'.driver.stopped? = some timedOut ∧ receipts s'.log = receipts s.log := by
  refine after?_induct (p := fun _ s' => s'.driver.stopped? = some timedOut ∧
    receipts s'.log = receipts s.log) ⟨stopped, rfl⟩ ?_ events s' run
  intro _ _ mid s' _ h step
  obtain ⟨before, same⟩ := h
  cases step with
  | work here move =>
    rw [move.driver, move.receipts]
    exact ⟨before, same⟩
  | tick => exact ⟨before, same⟩
  | cancel driver =>
    rw [driver] at before
    rw [note, receipts_cons, List.append_nil]
    exact ⟨before, same⟩
  | answer driver =>
    rw [driver] at before
    exact ⟨before, same⟩
  | complete driver | late driver | wait driver | receive driver | expire driver
  | disconnect driver =>
    rw [driver] at before
    cases before

end State

end SmokeTest.Pool
