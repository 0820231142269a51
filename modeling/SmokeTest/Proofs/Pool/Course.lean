/-
What a task does by itself, and that it does the same among other tasks.

* `Task.course` — the steps that a task enters by itself, and what comes of it;
* `Task.out` — what is said of a task that was run by itself;
* `Task.Ignores` — what another task does to the world makes no difference to this one;
* `onCourse_of_run` — among tasks that ignore each other every task is on its own course;
* `OnCourse.alone` — what the driver receives for a task is what comes of it by itself.

Design notes: the steps that a job has entered and the course that is ahead of it in the present
world make up the whole course. A step of the job moves one step from ahead to behind; a step of
another job changes the world, but not the course that is ahead.
-/
import SmokeTest.Proofs.Pool.Ledger

namespace SmokeTest.Pool

variable {σ ω : Type}

/-! ### Courses -/

/-- What a task does when it goes on by itself. -/
structure Course where
  /-- The steps that it enters, in their order. -/
  entered : List Step
  /-- What it reports after its last step, or what is said of the step that did not end well. -/
  result : Except String Outcome

namespace Course

/-- The course with some steps before it. -/
def behind (steps : List Step) (c : Course) : Course :=
  { c with entered := steps ++ c.entered }

@[simp] theorem behind_nil (c : Course) : c.behind [] = c := rfl

theorem behind_append (before steps : List Step) (c : Course) :
    c.behind (before ++ steps) = (c.behind steps).behind before := by
  simp [behind]

end Course

namespace Task

/-- What the task does when it takes the steps that are left one after the other. -/
def course (t : Task σ ω) : List Step → σ → ω → Course
  | [], state, _ => ⟨[], .ok (t.outcome state)⟩
  | step :: left, state, world =>
    let r := t.act step state world
    match r.ending.fault? with
    | some text => ⟨[step], .error text⟩
    | none => (t.course left r.state r.world).behind [step]

/-- What the task does from its first step on. -/
def wholeCourse (t : Task σ ω) (world : ω) : Course := t.course Step.all t.state world

theorem course_cons_fault {t : Task σ ω} {step : Step} {left : List Step} {state : σ} {world : ω}
    {text : String} (fault : (t.act step state world).ending.fault? = some text) :
    t.course (step :: left) state world = ⟨[step], .error text⟩ := by
  simp only [course, fault]

theorem course_cons_done {t : Task σ ω} {step : Step} {left : List Step} {state : σ} {world : ω}
    (fault : (t.act step state world).ending.fault? = none) :
    t.course (step :: left) state world =
      (t.course left (t.act step state world).state (t.act step state world).world).behind
        [step] := by
  simp only [course, fault]

/-- What is reported of the task, with the time that was measured if a step did not end well. -/
def report (t : Task σ ω) (measured : Nat) : Except String Outcome → Outcome
  | .ok o => o
  | .error text => t.faulty text measured

/-- What is said of the task when it was run by itself. Only of a task with a step that did not end
well is the measured time reported, and a report on something else is not believed. -/
def out (t : Task σ ω) (world : ω) (measured : Nat) : Outcome :=
  let o := t.report measured (t.wholeCourse world).result
  if o.id = t.id then o else mismatched t.id o

theorem exists_report_follow (t : Task σ ω) (elapsed : Nat) (left : List Step) (state : σ)
    (world : ω) :
    ∃ measured, (t.follow elapsed left state world).1 =
      t.report measured (t.course left state world).result := by
  induction left generalizing elapsed state world with
  | nil => exact ⟨elapsed, rfl⟩
  | cons step left ih =>
    cases fault : (t.act step state world).ending.fault? with
    | some text =>
      rw [course_cons_fault fault]
      exact ⟨elapsed + (t.act step state world).took, by simp only [follow, fault, report]⟩
    | none =>
      rw [course_cons_done fault]
      simp only [follow, fault]
      exact ih _ _ _

/-- What is said of the task alone is its `out`, with the time that its steps need. -/
theorem exists_out_alone (t : Task σ ω) (timeoutSeconds : Nat) (timedOut : Bool) (world : ω) :
    ∃ measured,
      settle timeoutSeconds timedOut t.id (some (t.alone world).1) = t.out world measured := by
  obtain ⟨measured, follow⟩ := t.exists_report_follow 0 Step.all t.state world
  exact ⟨measured, by rw [alone, follow, settle, out, wholeCourse]⟩

/-- Whatever step the other task takes, and whenever it does, this one goes on as it would have. -/
def Ignores (t other : Task σ ω) : Prop :=
  ∀ step state world left state',
    t.course left state' (other.act step state world).world = t.course left state' world

/-- Nothing tells the task about the world: how its steps end, and its own state behind them, are
the same in every world. -/
def IsBlind (t : Task σ ω) : Prop :=
  ∀ step state world world',
    (t.act step state world).ending = (t.act step state world').ending ∧
      (t.act step state world).state = (t.act step state world').state

theorem IsBlind.course_eq {t : Task σ ω} (blind : t.IsBlind) (left : List Step) (state : σ)
    (world world' : ω) : t.course left state world = t.course left state world' := by
  induction left generalizing state world world' with
  | nil => rfl
  | cons step left ih =>
    obtain ⟨ending, next⟩ := blind step state world world'
    simp only [course, ending, next]
    rw [ih _ _ (t.act step state world').world]

end Task

/-- The tasks ignore each other. -/
def Apart (tasks : List (Task σ ω)) : Prop :=
  ∀ (i j : Nat) (t other : Task σ ω), tasks[i]? = some t → tasks[j]? = some other → i ≠ j →
    t.Ignores other

/-- Tasks that nothing tells about the world ignore each other. -/
theorem Apart.of_blind {tasks : List (Task σ ω)} (blind : ∀ t ∈ tasks, t.IsBlind) :
    Apart tasks :=
  fun _ _ t _ get _ _ _ _ _ left state' =>
    (blind t (List.mem_of_getElem? get)).course_eq left state' _ _

/-- Tasks that share nothing ignore each other. -/
theorem Apart.of_subsingleton [Subsingleton ω] (tasks : List (Task σ ω)) : Apart tasks :=
  .of_blind fun t _ step state world world' => by simp [Subsingleton.elim world world']

/-! ### What is ahead -/

/-- The course that is ahead of a job in a place. -/
inductive Ahead (t : Task σ ω) (world : ω) : Place σ ω → Course → Prop
  | queued (j : Job σ ω) : Ahead t world (.queued j) (t.wholeCourse world)
  | holding (w : Nat) (j : Job σ ω) : Ahead t world (.held w (.holding j)) (t.wholeCourse world)
  | cleared (w : Nat) (j : Job σ ω) : Ahead t world (.held w (.cleared j)) (t.wholeCourse world)
  | ready (w : Nat) (j : Job σ ω) (started : Nat) (left : List Step) (state : σ) :
      Ahead t world (.held w (.ready j started left state)) (t.course left state world)
  | passing (w : Nat) (j : Job σ ω) (started due : Nat) (step : Step) (left : List Step) (state : σ)
      {ending : Ending} (fault : ending.fault? = none) :
      Ahead t world (.held w (.inside j started step left ending state due))
        (t.course left state world)
  | failing (w : Nat) (j : Job σ ω) (started due : Nat) (step : Step) (left : List Step) (state : σ)
      {ending : Ending} {text : String} (fault : ending.fault? = some text) :
      Ahead t world (.held w (.inside j started step left ending state due)) ⟨[], .error text⟩
  | reporting (w : Nat) (j : Job σ ω) (measured : Nat) (result : Except String Outcome) :
      Ahead t world (.held w (.reporting j (t.report measured result))) ⟨[], result⟩
  | posted (measured : Nat) (result : Except String Outcome) :
      Ahead t world (.posted (t.report measured result)) ⟨[], result⟩
  | received (measured : Nat) (result : Except String Outcome) :
      Ahead t world (.received (t.report measured result)) ⟨[], result⟩
  | dropped (c : Course) : Ahead t world .dropped c

/-- What is ahead of a job is the same in a world that its task does not tell apart. -/
theorem Ahead.congr {t : Task σ ω} {world world' : ω} {p : Place σ ω} {c : Course}
    (same : ∀ left state, t.course left state world' = t.course left state world)
    (h : Ahead t world p c) : Ahead t world' p c := by
  cases h with
  | queued j =>
    rw [Task.wholeCourse, ← same]
    exact .queued j
  | holding w j =>
    rw [Task.wholeCourse, ← same]
    exact .holding w j
  | cleared w j =>
    rw [Task.wholeCourse, ← same]
    exact .cleared w j
  | ready w j started left state =>
    rw [← same]
    exact .ready w j started left state
  | passing w j started due step left state fault =>
    rw [← same]
    exact .passing w j started due step left state fault
  | failing w j started due step left state fault =>
    exact .failing w j started due step left state fault
  | reporting w j measured result => exact .reporting w j measured result
  | posted measured result => exact .posted measured result
  | received measured result => exact .received measured result
  | dropped c => exact .dropped c

/-- When a job moves on, what it enters thereby comes off what is ahead of it. -/
theorem Ahead.hop {t : Task σ ω} {index : Nat} {p p' : Place σ ω} {notes added : List Note}
    {world world' : ω} {c : Course} (ahead : Ahead t world p c) (told : Told t index p notes)
    (hop : Hop world world' index p p' added) :
    ∃ c', Ahead t world' p' c' ∧ c = c'.behind (entries index added) := by
  cases hop with
  | take w j =>
    cases ahead
    exact ⟨_, .holding w j, rfl⟩
  | skip w j => exact ⟨c, .dropped c, rfl⟩
  | clear w j =>
    cases ahead
    exact ⟨_, .cleared w j, rfl⟩
  | die w j => exact ⟨c, .dropped c, rfl⟩
  | start w j started =>
    obtain ⟨index, task⟩ := j
    cases told
    cases ahead
    exact ⟨_, .ready w _ started _ _, rfl⟩
  | enter w j started due step left state =>
    obtain ⟨index, task⟩ := j
    cases told
    cases ahead
    -- the step that is entered is the first one ahead, and how it ends decides what is left
    have one : entries index [.entered index step] = [step] := by simp [entries]
    rw [one]
    cases fault : (t.act step state world).ending.fault? with
    | some text =>
      exact ⟨_, .failing w _ started due step left _ fault, Task.course_cons_fault fault⟩
    | none => exact ⟨_, .passing w _ started due step left _ fault, Task.course_cons_done fault⟩
  | pass w j started due step left state fault =>
    -- a step that ended well was not reported as a fault when it was entered
    cases ahead with
    | passing => exact ⟨_, .ready w j started left state, rfl⟩
    | failing _ _ _ _ _ _ _ fault' => cases fault.symm.trans fault'
  | fail w j started due elapsed step left state fault =>
    obtain ⟨index, task⟩ := j
    cases told
    cases ahead with
    | passing _ _ _ _ _ _ _ fault' => cases fault.symm.trans fault'
    | failing _ _ _ _ _ _ _ fault' =>
      cases fault.symm.trans fault'
      exact ⟨_, .reporting w _ elapsed (.error _), rfl⟩
  | finish w j started state =>
    obtain ⟨index, task⟩ := j
    cases told
    cases ahead
    exact ⟨_, .reporting w _ 0 (.ok _), rfl⟩
  | lose w j o => exact ⟨c, .dropped c, rfl⟩
  | send w j o =>
    cases ahead with
    | reporting _ _ measured result => exact ⟨_, .posted measured result, rfl⟩
  | receive index o =>
    cases ahead with
    | posted measured result => exact ⟨_, .received measured result, rfl⟩

/-! ### Runs -/

namespace State

variable {tasks : List (Task σ ω)} {s s' : State σ ω} {world₀ : ω}

/-- Every task is on the course that it would take by itself in the first world: what it has entered
and what is ahead of it in the present world make up the whole of it. -/
def OnCourse (tasks : List (Task σ ω)) (world₀ : ω) (s : State σ ω) : Prop :=
  ∀ (i : Nat) (p : Place σ ω) (t : Task σ ω), (i, p) ∈ s.places → tasks[i]? = some t →
    ∃ c, Ahead t s.world p c ∧ t.wholeCourse world₀ = c.behind (entries i (history s.log i))

theorem onCourse_start (tasks : List (Task σ ω)) (poolSize : Nat) (world : ω) :
    OnCourse tasks world (start tasks poolSize world) := by
  intro i p t mem get
  rw [places_start, Multiset.mem_coe, List.mem_map] at mem
  obtain ⟨j, _, same⟩ := mem
  cases same
  exact ⟨_, .queued j, rfl⟩

theorem OnCourse.rest (h : OnCourse tasks world₀ s) (step : Rest s s') :
    OnCourse tasks world₀ s' := by
  intro i p t mem get
  rw [step.places] at mem
  rw [step.world, step.history]
  exact h i p t mem get

theorem OnCourse.advance {index : Nat} {p p' : Place σ ω} {added : List Note}
    (h : OnCourse tasks world₀ s) (ledger : Ledger tasks s) (apart : Apart tasks)
    (step : Advance s s' index p p' added) : OnCourse tasks world₀ s' := by
  obtain ⟨others, before, after⟩ := step.places
  have here : (index, p) ∈ s.places := before ▸ Multiset.mem_cons_self _ _
  obtain ⟨mover, getMover, told⟩ := ledger.stories index p here
  intro i q t mem get
  rw [after, Multiset.mem_cons] at mem
  rcases mem with same | mem
  · cases same
    cases getMover.symm.trans get
    obtain ⟨c, ahead, whole⟩ := h index p mover here get
    obtain ⟨c', ahead', rfl⟩ := ahead.hop told step.hop
    refine ⟨c', ahead', ?_⟩
    rw [whole, step.history, if_pos rfl, entries_append, Course.behind_append]
  · have other : i ≠ index := ledger.ne_of_mem_others before mem
    obtain ⟨c, ahead, whole⟩ := h i q t (before ▸ Multiset.mem_cons_of_mem mem) get
    refine ⟨c, ahead.congr ?_, by rw [step.history, if_neg other, List.append_nil, whole]⟩
    -- the world may have changed, but only by a step of the task that moves
    intro left state
    rcases told.world_of_hop step.hop with same | ⟨step', state', same⟩
    · rw [same]
    · rw [same, apart i index t mover get getMover other]

/-- Among tasks that ignore each other every task is on its own course, whatever the order of the
events. -/
theorem onCourse_of_run {deadline : Option Nat} {poolSize : Nat} {world : ω} {events : List Event}
    (apart : Apart tasks)
    (run : (start tasks poolSize world).after? deadline events = some s) :
    OnCourse tasks world s := by
  refine after?_induct (p := fun _ s => OnCourse tasks world s) (onCourse_start _ _ _) ?_
    events s run
  intro _ _ mid s run onCourse step
  rcases step.advance with rest | ⟨_, _, _, _, advance⟩
  · exact onCourse.rest rest
  · exact onCourse.advance (ledger_of_run run) apart advance

/-- What the driver has received for a task is what comes of the task by itself, and the task has
entered the steps that it enters by itself. -/
theorem OnCourse.alone {i : Nat} {o : Outcome} {t : Task σ ω} (h : OnCourse tasks world₀ s)
    (get : tasks[i]? = some t) (received : (i, .received o) ∈ s.places) :
    (∃ measured, o = t.report measured (t.wholeCourse world₀).result) ∧
      stepsEntered s.log i = (t.wholeCourse world₀).entered := by
  obtain ⟨c, ahead, whole⟩ := h i _ t received get
  rw [whole, stepsEntered_eq_history]
  cases ahead with
  | received measured result =>
    exact ⟨⟨measured, rfl⟩, (List.append_nil _).symm⟩

end State

end SmokeTest.Pool
