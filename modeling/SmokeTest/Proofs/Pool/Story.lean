/-
The life of one job, told by the notes on it.

A job waits in the queue, is held by a worker, and is reported and received, or dropped. `Told`
says for each of these places which notes there are on the job, oldest first, and so which steps its
task has been through.

* `Reports` — what a task may report, with the notes on the steps behind it;
* `Told` — the notes on a job that is in a given place;
* `Hop` — how a job moves on, and `Told.hop`, how its story then goes on;
* `Shape` — what all stories have in common: a job is taken, goes some of its way, and is done with;
* `Reports.of_pass` — only a task that has been through all its steps reports a pass.

Design notes: nothing is said of the world in which a step is entered, since other jobs may have
changed it; a story holds for every order in which the workers move.
-/
import SmokeTest.Pool.State

namespace SmokeTest.Pool

variable {σ ω : Type}

theorem Ending.fault?_eq_none {e : Ending} : e.fault? = none ↔ e = .done := by
  cases e <;> simp [Ending.fault?]

/-! ### Notes on one job -/

/-- Whether a note is on the job with the given index. -/
def Note.isOn (index : Nat) : Note → Bool
  | .taken _ i | .entered i _ | .left i _ _ | .sent i _ | .received i _ | .dropped i => i == index
  | .cancelled => false

/-- The notes on one job, the oldest first. -/
def history (log : List Note) (index : Nat) : List Note :=
  (log.filter (Note.isOn index)).reverse

theorem mem_of_mem_history {n : Note} {log : List Note} {index : Nat}
    (h : n ∈ history log index) : n ∈ log :=
  (List.mem_filter.mp (List.mem_reverse.mp h)).1

theorem mem_history {n : Note} {log : List Note} {index : Nat} (on : n.isOn index = true)
    (h : n ∈ log) : n ∈ history log index :=
  List.mem_reverse.mpr (List.mem_filter.mpr ⟨h, on⟩)

theorem history_cons (n : Note) (log : List Note) (index : Nat) :
    history (n :: log) index = history log index ++ if n.isOn index then [n] else [] := by
  cases h : n.isOn index <;> simp [history, h]

/-- Reading off something of each note of one kind is the same along the log and along the history
of the job, as long as it reads nothing off the notes on other jobs. -/
theorem filterMap_history {α : Type} {f : Note → Option α} {index : Nat}
    (other : ∀ n, n.isOn index = false → f n = none) (log : List Note) :
    (history log index).filterMap f = log.reverse.filterMap f := by
  rw [history, ← List.filter_reverse, List.filterMap_filter]
  congr 1
  funext n
  cases h : n.isOn index
  · simp [other n h]
  · simp

theorem takers_eq_history (log : List Note) (index : Nat) :
    takers log index = (history log index).filterMap fun
      | .taken worker i => if i = index then some worker else none
      | _ => none := by
  refine (filterMap_history (fun n other => ?_) log).symm
  cases n <;> simp_all [Note.isOn]

theorem stepsEntered_eq_history (log : List Note) (index : Nat) :
    stepsEntered log index = (history log index).filterMap fun
      | .entered i step => if i = index then some step else none
      | _ => none := by
  refine (filterMap_history (fun n other => ?_) log).symm
  cases n <;> simp_all [Note.isOn]

theorem stepsLeft_eq_history (log : List Note) (index : Nat) :
    stepsLeft log index = (history log index).filterMap fun
      | .left i step ending => if i = index then some (step, ending) else none
      | _ => none := by
  refine (filterMap_history (fun n other => ?_) log).symm
  cases n <;> simp_all [Note.isOn]

theorem reportsReceived_eq_history (log : List Note) (index : Nat) :
    reportsReceived log index = (history log index).filterMap fun
      | .received i o => if i = index then some o else none
      | _ => none := by
  refine (filterMap_history (fun n other => ?_) log).symm
  cases n <;> simp_all [Note.isOn]

/-- The reports for a job that a worker sent, in their order. -/
def reportsSent (log : List Note) (index : Nat) : List Outcome :=
  log.reverse.filterMap fun
    | .sent i o => if i = index then some o else none
    | _ => none

theorem reportsSent_eq_history (log : List Note) (index : Nat) :
    reportsSent log index = (history log index).filterMap fun
      | .sent i o => if i = index then some o else none
      | _ => none := by
  refine (filterMap_history (fun n other => ?_) log).symm
  cases n <;> simp_all [Note.isOn]

theorem mem_takers {log : List Note} {index w : Nat} :
    w ∈ takers log index ↔ .taken w index ∈ log := by
  rw [takers, List.mem_filterMap]
  constructor
  · rintro ⟨n, mem, same⟩
    cases n <;> simp_all
  · exact fun mem => ⟨_, List.mem_reverse.mpr mem, if_pos rfl⟩

theorem mem_reportsSent {log : List Note} {index : Nat} {o : Outcome} :
    o ∈ reportsSent log index ↔ .sent index o ∈ log := by
  rw [reportsSent, List.mem_filterMap]
  constructor
  · rintro ⟨n, mem, same⟩
    cases n <;> simp_all
  · exact fun mem => ⟨_, List.mem_reverse.mpr mem, if_pos rfl⟩

theorem mem_reportsReceived {log : List Note} {index : Nat} {o : Outcome} :
    o ∈ reportsReceived log index ↔ .received index o ∈ log := by
  rw [reportsReceived, List.mem_filterMap]
  constructor
  · rintro ⟨n, mem, same⟩
    cases n <;> simp_all
  · exact fun mem => ⟨_, List.mem_reverse.mpr mem, if_pos rfl⟩

/-! ### What a task goes through -/

namespace Task

/-- The task goes through the steps from one state to another: each of them is entered in some world
and ends well. -/
inductive Passes (t : Task σ ω) : List Step → σ → σ → Prop
  | nil (state : σ) : Passes t [] state state
  | snoc {steps : List Step} {start state : σ} (step : Step) (world : ω)
      (passed : Passes t steps start state) (done : (t.act step state world).ending = .done) :
      Passes t (steps ++ [step]) start (t.act step state world).state

/-- The notes on a job that has been through the steps. -/
def passage (index : Nat) (steps : List Step) : List Note :=
  steps.flatMap fun step => [.entered index step, .left index step .done]

/-- What a task may report under an index, with the notes on its steps: its own outcome after all
steps, or the fault of the first step that did not end well. -/
inductive Reports (t : Task σ ω) (index : Nat) : List Note → Outcome → Prop
  | outcome {state : σ} (passed : t.Passes Step.all t.state state) :
      Reports t index (passage index Step.all) (t.outcome state)
  | fault {before left : List Step} {step : Step} {state : σ} {world : ω} {text : String}
      (elapsed : Nat) (order : before ++ step :: left = Step.all)
      (passed : t.Passes before t.state state)
      (fault : (t.act step state world).ending.fault? = some text) :
      Reports t index
        (passage index before ++
          [.entered index step, .left index step (t.act step state world).ending])
        (t.faulty text elapsed)

theorem passage_concat (index : Nat) (steps : List Step) (step : Step) :
    passage index (steps ++ [step]) =
      passage index steps ++ [.entered index step, .left index step .done] := by
  simp [passage]

/-- A pass is reported by the task itself, after all its steps. -/
theorem Reports.of_pass {t : Task σ ω} {index : Nat} {notes : List Note} {o : Outcome}
    (h : t.Reports index notes o) (pass : o.verdict = .pass) :
    notes = passage index Step.all ∧
      ∃ state, t.Passes Step.all t.state state ∧ o = t.outcome state := by
  cases h with
  | outcome passed => exact ⟨rfl, _, passed, rfl⟩
  | fault => cases pass

end Task

/-! ### Places -/

/-- Where a job is. -/
inductive Place (σ ω : Type)
  | queued (job : Job σ ω)
  | held (worker : Nat) (phase : Worker σ ω)
  | posted (outcome : Outcome)
  | received (outcome : Outcome)
  | dropped

/-- The notes on the job of a task, by the place where it is. -/
inductive Told (t : Task σ ω) (index : Nat) : Place σ ω → List Note → Prop
  | queued : Told t index (.queued ⟨index, t⟩) []
  | holding (w : Nat) : Told t index (.held w (.holding ⟨index, t⟩)) [.taken w index]
  | cleared (w : Nat) : Told t index (.held w (.cleared ⟨index, t⟩)) [.taken w index]
  | ready (w : Nat) {before left : List Step} {state : σ} (started : Nat)
      (order : before ++ left = Step.all) (passed : t.Passes before t.state state) :
      Told t index (.held w (.ready ⟨index, t⟩ started left state))
        (.taken w index :: Task.passage index before)
  | inside (w : Nat) {before left : List Step} {step : Step} {state : σ} (world : ω)
      (started due : Nat) (order : before ++ step :: left = Step.all)
      (passed : t.Passes before t.state state) :
      Told t index
        (.held w (.inside ⟨index, t⟩ started step left (t.act step state world).ending
          (t.act step state world).state due))
        (.taken w index :: Task.passage index before ++ [.entered index step])
  | reporting (w : Nat) {notes : List Note} {o : Outcome} (report : t.Reports index notes o) :
      Told t index (.held w (.reporting ⟨index, t⟩ o)) (.taken w index :: notes)
  | posted (w : Nat) {notes : List Note} {o : Outcome} (report : t.Reports index notes o) :
      Told t index (.posted o) (.taken w index :: notes ++ [.sent index o])
  | received (w : Nat) {notes : List Note} {o : Outcome} (report : t.Reports index notes o) :
      Told t index (.received o)
        (.taken w index :: notes ++ [.sent index o, .received index o])
  | lost (w : Nat) : Told t index .dropped [.taken w index, .dropped index]
  | unheard (w : Nat) {notes : List Note} {o : Outcome} (report : t.Reports index notes o) :
      Told t index .dropped (.taken w index :: notes ++ [.dropped index])

/-! ### Moving on -/

/-- How the job with an index moves on from one place to another, with the world before and after
and the notes that are added. -/
inductive Hop (world : ω) : ω → Nat → Place σ ω → Place σ ω → List Note → Prop
  | take (w : Nat) (j : Job σ ω) :
      Hop world world j.index (.queued j) (.held w (.holding j)) [.taken w j.index]
  | skip (w : Nat) (j : Job σ ω) :
      Hop world world j.index (.held w (.holding j)) .dropped [.dropped j.index]
  | clear (w : Nat) (j : Job σ ω) :
      Hop world world j.index (.held w (.holding j)) (.held w (.cleared j)) []
  | die (w : Nat) (j : Job σ ω) :
      Hop world world j.index (.held w (.cleared j)) .dropped [.dropped j.index]
  | start (w : Nat) (j : Job σ ω) (started : Nat) :
      Hop world world j.index (.held w (.cleared j))
        (.held w (.ready j started Step.all j.task.state)) []
  | enter (w : Nat) (j : Job σ ω) (started due : Nat) (step : Step) (left : List Step) (state : σ) :
      Hop world (j.task.act step state world).world j.index
        (.held w (.ready j started (step :: left) state))
        (.held w (.inside j started step left (j.task.act step state world).ending
          (j.task.act step state world).state due))
        [.entered j.index step]
  | pass (w : Nat) (j : Job σ ω) (started due : Nat) (step : Step) (left : List Step) (state : σ)
      {ending : Ending} (fault : ending.fault? = none) :
      Hop world world j.index (.held w (.inside j started step left ending state due))
        (.held w (.ready j started left state)) [.left j.index step ending]
  | fail (w : Nat) (j : Job σ ω) (started due elapsed : Nat) (step : Step) (left : List Step)
      (state : σ) {ending : Ending} {text : String} (fault : ending.fault? = some text) :
      Hop world world j.index (.held w (.inside j started step left ending state due))
        (.held w (.reporting j (j.task.faulty text elapsed))) [.left j.index step ending]
  | finish (w : Nat) (j : Job σ ω) (started : Nat) (state : σ) :
      Hop world world j.index (.held w (.ready j started [] state))
        (.held w (.reporting j (j.task.outcome state))) []
  | lose (w : Nat) (j : Job σ ω) (o : Outcome) :
      Hop world world j.index (.held w (.reporting j o)) .dropped [.dropped j.index]
  | send (w : Nat) (j : Job σ ω) (o : Outcome) :
      Hop world world j.index (.held w (.reporting j o)) (.posted o) [.sent j.index o]
  | receive (index : Nat) (o : Outcome) :
      Hop world world index (.posted o) (.received o) [.received index o]

/-- The story of a job goes on when it moves on. -/
theorem Told.hop {t : Task σ ω} {index : Nat} {p p' : Place σ ω} {notes added : List Note}
    {world world' : ω} (told : Told t index p notes) (hop : Hop world world' index p p' added) :
    Told t index p' (notes ++ added) := by
  cases hop with
  | take w j =>
    obtain ⟨index, task⟩ := j
    cases told
    exact .holding w
  | skip w j =>
    obtain ⟨index, task⟩ := j
    cases told
    exact .lost w
  | clear w j =>
    obtain ⟨index, task⟩ := j
    cases told
    exact .cleared w
  | die w j =>
    obtain ⟨index, task⟩ := j
    cases told
    exact .lost w
  | start w j started =>
    obtain ⟨index, task⟩ := j
    cases told
    exact .ready w started rfl (.nil _)
  | enter w j started due step left state =>
    obtain ⟨index, task⟩ := j
    cases told with
    | ready _ _ order passed => exact .inside w world started due order passed
  | pass w j started due step left state fault =>
    obtain ⟨index, task⟩ := j
    cases told with
    | @inside _ before _ _ _ world _ _ order passed =>
      -- the step that ended well joins the steps behind
      have done := Ending.fault?_eq_none.mp fault
      have order' : before ++ [step] ++ left = Step.all := by simpa using order
      have told : Told t index _ _ := .ready w started order' (passed.snoc _ world done)
      rw [Task.passage_concat] at told
      simpa [done] using told
  | fail w j started due elapsed step left state fault =>
    obtain ⟨index, task⟩ := j
    cases told with
    | inside _ world _ _ order passed =>
      -- the step that did not end well is the last one, and its text is the report
      have report : t.Reports index _ _ := .fault elapsed order passed fault
      have told : Told t index _ _ := .reporting w report
      simpa using told
  | finish w j started state =>
    obtain ⟨index, task⟩ := j
    cases told with
    | ready _ _ order passed =>
      rw [List.append_nil] at order ⊢
      subst order
      exact .reporting w (.outcome passed)
  | lose w j o =>
    obtain ⟨index, task⟩ := j
    cases told with
    | reporting _ report => exact .unheard w report
  | send w j o =>
    obtain ⟨index, task⟩ := j
    cases told with
    | reporting _ report => exact .posted w report
  | receive index o =>
    cases told with
    | posted w report => simpa using Told.received w report

/-- Only the task of a job changes the world when the job moves on. -/
theorem Told.world_of_hop {t : Task σ ω} {index : Nat} {p p' : Place σ ω} {notes added : List Note}
    {world world' : ω} (told : Told t index p notes) (hop : Hop world world' index p p' added) :
    world' = world ∨ ∃ step state, world' = (t.act step state world).world := by
  cases hop with
  | enter w j started due step left state =>
    obtain ⟨index, task⟩ := j
    cases told with
    | ready => exact .inr ⟨step, state, rfl⟩
  | _ => exact .inl rfl

/-! ### The shape of a story -/

/-- The steps that a job enters according to some notes, the oldest first. -/
def entries (index : Nat) (notes : List Note) : List Step :=
  notes.filterMap fun
    | .entered i step => if i = index then some step else none
    | _ => none

/-- The steps that a job leaves according to some notes, and how they end. -/
def exits (index : Nat) (notes : List Note) : List (Step × Ending) :=
  notes.filterMap fun
    | .left i step ending => if i = index then some (step, ending) else none
    | _ => none

theorem entries_append (index : Nat) (before after : List Note) :
    entries index (before ++ after) = entries index before ++ entries index after :=
  List.filterMap_append

theorem exits_append (index : Nat) (before after : List Note) :
    exits index (before ++ after) = exits index before ++ exits index after :=
  List.filterMap_append

theorem entries_passage (index : Nat) (steps : List Step) :
    entries index (Task.passage index steps) = steps := by
  induction steps with
  | nil => rfl
  | cons step rest ih => simpa [entries, Task.passage] using ih

theorem exits_passage (index : Nat) (steps : List Step) :
    exits index (Task.passage index steps) = steps.map fun step => (step, .done) := by
  induction steps with
  | nil => rfl
  | cons step rest ih => simpa [exits, Task.passage] using ih

/-- The notes on the steps of a job: those that ended well, perhaps one more that is entered, and
perhaps left again with a fault. -/
inductive Way (index : Nat) : List Note → Prop
  | passed {before left : List Step} (order : before ++ left = Step.all) :
      Way index (Task.passage index before)
  | inside {before left : List Step} {step : Step} (order : before ++ step :: left = Step.all) :
      Way index (Task.passage index before ++ [.entered index step])
  | faulty {before left : List Step} {step : Step} {ending : Ending} {text : String}
      (order : before ++ step :: left = Step.all) (fault : ending.fault? = some text) :
      Way index (Task.passage index before ++ [.entered index step, .left index step ending])

/-- How the notes on a job end. -/
inductive Close (index : Nat) : List Note → Prop
  | none : Close index []
  | sent (o : Outcome) : Close index [.sent index o]
  | received (o : Outcome) : Close index [.sent index o, .received index o]
  | dropped : Close index [.dropped index]

/-- The notes on a job: there are none, or it was taken once and went some of its way. -/
inductive Shape (index : Nat) : List Note → Prop
  | untouched : Shape index []
  | taken (w : Nat) {way close : List Note} (steps : Way index way) (ends : Close index close) :
      Shape index (.taken w index :: way ++ close)

theorem Task.Reports.way {t : Task σ ω} {index : Nat} {notes : List Note} {o : Outcome}
    (h : t.Reports index notes o) : Way index notes := by
  cases h with
  | outcome => exact .passed (List.append_nil _)
  | fault _ order _ fault => exact .faulty order fault

theorem Told.shape {t : Task σ ω} {index : Nat} {p : Place σ ω} {notes : List Note}
    (h : Told t index p notes) : Shape index notes := by
  cases h with
  | queued => exact .untouched
  | holding w | cleared w => exact .taken w (.passed (List.nil_append _)) .none
  | ready w _ order => simpa using Shape.taken w (.passed order) .none
  | inside w _ _ _ order => simpa using Shape.taken w (.inside order) .none
  | reporting w report => simpa using Shape.taken w report.way .none
  | posted w report => exact .taken w report.way (.sent _)
  | received w report => exact .taken w report.way (.received _)
  | lost w => exact .taken w (.passed (List.nil_append _)) .dropped
  | unheard w report => exact .taken w report.way .dropped

theorem Task.note_of_passage {index : Nat} {steps : List Step} {n : Note}
    (h : n ∈ Task.passage index steps) :
    ∃ step, n = .entered index step ∨ n = .left index step .done := by
  obtain ⟨step, _, mem⟩ := List.mem_flatMap.mp h
  exact ⟨step, by simpa using mem⟩

/-- The notes on the way are on steps only. -/
theorem Way.note {index : Nat} {notes : List Note} (h : Way index notes) {n : Note}
    (mem : n ∈ notes) :
    ∃ step, n = .entered index step ∨ ∃ ending, n = .left index step ending := by
  have passed : ∀ {steps}, n ∈ Task.passage index steps →
      ∃ step, n = .entered index step ∨ ∃ ending, n = .left index step ending := by
    intro steps mem
    obtain ⟨step, entered | left⟩ := Task.note_of_passage mem
    · exact ⟨step, .inl entered⟩
    · exact ⟨step, .inr ⟨_, left⟩⟩
  cases h with
  | passed => exact passed mem
  | inside =>
    rcases List.mem_append.mp mem with mem | mem
    · exact passed mem
    · exact ⟨_, .inl (List.mem_singleton.mp mem)⟩
  | faulty =>
    rcases List.mem_append.mp mem with mem | mem
    · exact passed mem
    · rcases List.mem_cons.mp mem with entered | left
      · exact ⟨_, .inl entered⟩
      · exact ⟨_, .inr ⟨_, List.mem_singleton.mp left⟩⟩

theorem Way.not_sent {index : Nat} {notes : List Note} (h : Way index notes) (o : Outcome) :
    .sent index o ∉ notes := by
  intro mem
  obtain ⟨_, same | ⟨_, same⟩⟩ := h.note mem
  · cases same
  · cases same

/-- A job of which a report was sent is in the channel, or the driver has received it. -/
theorem Told.of_sent {t : Task σ ω} {index : Nat} {p : Place σ ω} {notes : List Note} {o : Outcome}
    (told : Told t index p notes) (sent : .sent index o ∈ notes) :
    p = .posted o ∨ p = .received o := by
  cases told with
  | queued => cases sent
  | holding | cleared | lost => simp at sent
  | ready w started order =>
    exact absurd (by simpa using sent) (Way.not_sent (.passed order) o)
  | inside w world started due order =>
    exact absurd (by simpa using sent) (Way.not_sent (.inside order) o)
  | reporting w report => exact absurd (by simpa using sent) (report.way.not_sent o)
  | unheard w report => exact absurd (by simpa using sent) (report.way.not_sent o)
  | posted w report =>
    have none_before := report.way.not_sent o
    exact .inl (by simpa [none_before, eq_comm] using sent)
  | received w report =>
    have none_before := report.way.not_sent o
    exact .inr (by simpa [none_before, eq_comm] using sent)

/-- Nothing is read off the notes on the way by a function that ignores steps. -/
theorem Way.filterMap {α : Type} {index : Nat} {notes : List Note} (h : Way index notes)
    {f : Note → Option α} (entered : ∀ step, f (.entered index step) = none)
    (left : ∀ step ending, f (.left index step ending) = none) : notes.filterMap f = [] := by
  refine List.filterMap_eq_nil_iff.mpr fun n mem => ?_
  obtain ⟨step, rfl | ⟨ending, rfl⟩⟩ := h.note mem
  · exact entered step
  · exact left step ending

end SmokeTest.Pool
