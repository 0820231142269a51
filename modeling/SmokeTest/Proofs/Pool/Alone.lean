/-
What is said of a task that goes through its steps by itself.

* `Ending.Tells` — what is said of a step that did not end well;
* `Task.PassesAlone` — steps that all end well, one after the other;
* `Task.Said` — the steps that a task enters by itself, and what is said of it then;
* `Task.said_iff` — this is its course, and what comes of the course.

Design notes: `Said` speaks of the four steps and of the words of an outcome, and of no function
that computes them. The time of a step that did not end well is measured, so it is left open.
-/
import SmokeTest.Proofs.Pool.Course
import SmokeTest.Proofs.Pool.Outcomes

namespace SmokeTest.Pool

variable {σ ω : Type}

/-- The text of an error, or that of a panic; a panic without a text is called one. -/
inductive Ending.Tells : Ending → String → Prop
  | failed (text : String) : Tells (.failed text) text
  | panicked (text : String) : Tells (.panicked (some text)) text
  | silent : Tells (.panicked none) "unit panicked"

theorem Ending.tells_iff {ending : Ending} {text : String} :
    ending.Tells text ↔ ending.fault? = some text := by
  constructor
  · intro tells
    cases tells <;> rfl
  · intro fault
    cases ending with
    | done => cases fault
    | failed text' =>
      cases fault
      exact .failed _
    | panicked text' =>
      cases text' <;> cases fault
      · exact .silent
      · exact .panicked _

namespace Task

/-- The steps all end well, one after the other, and lead from a state of the task and a world to
others. -/
inductive PassesAlone (t : Task σ ω) : List Step → σ → ω → σ → ω → Prop
  | nil {state : σ} {world : ω} : PassesAlone t [] state world state world
  | cons {step : Step} {left : List Step} {state state' : σ} {world world' : ω}
      (done : (t.act step state world).ending = .done)
      (rest : PassesAlone t left (t.act step state world).state (t.act step state world).world
        state' world') : PassesAlone t (step :: left) state world state' world'

/-- What is said of a task that goes through its steps by itself, and the steps that it enters then.
If all of them end well, it is what the task reports behind them, as far as it is believed; and
otherwise what the first one says that does not end well, and no other step is entered. -/
inductive Said (t : Task σ ω) (world : ω) (entered : List Step) (r : Outcome) : Prop
  | reported {state : σ} {world' : ω}
      (all : entered = [.prepare, .execute, .conclude, .validate])
      (passes : t.PassesAlone entered t.state world state world')
      (believed : Believed t.id (t.outcome state) r)
  | faulty {before after : List Step} {step : Step} {state : σ} {world' : ω} {text : String}
      (order : before ++ step :: after = [.prepare, .execute, .conclude, .validate])
      (entered : entered = before ++ [step])
      (passes : t.PassesAlone before t.state world state world')
      (tells : (t.act step state world').ending.Tells text)
      (id : r.id = t.id) (verdict : r.verdict = .userError) (message : r.message = text)

theorem PassesAlone.course_eq {t : Task σ ω} {steps : List Step} {state state' : σ}
    {world world' : ω} (h : t.PassesAlone steps state world state' world') (left : List Step) :
    t.course (steps ++ left) state world = (t.course left state' world').behind steps := by
  induction h with
  | nil => rfl
  | cons done _ ih =>
    rw [List.cons_append, course_cons_done (by rw [done]; rfl), ih, ← Course.behind_append]
    rfl

/-- The steps of a task all pass, or one of them says what is wrong and those before it pass. -/
theorem passesAlone_or_tells (t : Task σ ω) (left : List Step) (state : σ) (world : ω) :
    (∃ state' world', t.PassesAlone left state world state' world') ∨
      ∃ before step after state' world' text, before ++ step :: after = left ∧
        t.PassesAlone before state world state' world' ∧
          (t.act step state' world').ending.Tells text := by
  induction left generalizing state world with
  | nil => exact .inl ⟨state, world, .nil⟩
  | cons step left ih =>
    cases ending : (t.act step state world).ending with
    | done =>
      -- the steps behind it begin where this one has left the task and the world
      rcases ih (t.act step state world).state (t.act step state world).world with
        ⟨state', world', passes⟩ | ⟨before, step', after, state', world', text, rfl, passes, tells⟩
      · exact .inl ⟨state', world', .cons ending passes⟩
      · exact .inr ⟨step :: before, step', after, state', world', text, rfl, .cons ending passes,
          tells⟩
    | failed text =>
      exact .inr ⟨[], step, left, state, world, text, rfl, .nil, ending ▸ .failed text⟩
    | panicked text =>
      cases text with
      | none => exact .inr ⟨[], step, left, state, world, "unit panicked", rfl, .nil,
          ending ▸ .silent⟩
      | some text =>
        exact .inr ⟨[], step, left, state, world, text, rfl, .nil, ending ▸ .panicked text⟩

theorem PassesAlone.wholeCourse_eq {t : Task σ ω} {state : σ} {world world' : ω}
    (h : t.PassesAlone Step.all t.state world state world') :
    t.wholeCourse world = ⟨Step.all, .ok (t.outcome state)⟩ := by
  rw [wholeCourse, ← List.append_nil Step.all, h.course_eq]
  rfl

theorem PassesAlone.wholeCourse_eq_error {t : Task σ ω} {before after : List Step} {step : Step}
    {state : σ} {world world' : ω} {text : String}
    (h : t.PassesAlone before t.state world state world')
    (order : before ++ step :: after = Step.all)
    (tells : (t.act step state world').ending.Tells text) :
    t.wholeCourse world = ⟨before ++ [step], .error text⟩ := by
  rw [wholeCourse, ← order, h.course_eq, course_cons_fault (Ending.tells_iff.mp tells)]
  rfl

/-- What comes of the course of a task is believed if the course has a report at its end. -/
theorem out_eq_settle {t : Task σ ω} {world : ω} {o : Outcome}
    (course : (t.wholeCourse world).result = .ok o) (measured : Nat) :
    t.out world measured = settle 0 false t.id (some o) := by
  rw [out, course]
  rfl

theorem out_eq_faulty {t : Task σ ω} {world : ω} {text : String}
    (course : (t.wholeCourse world).result = .error text) (measured : Nat) :
    t.out world measured = t.faulty text measured := by
  rw [out, course]
  exact if_pos rfl

theorem said_out (t : Task σ ω) (world : ω) (measured : Nat) :
    t.Said world (t.wholeCourse world).entered (t.out world measured) := by
  rcases t.passesAlone_or_tells Step.all t.state world with
    ⟨state, world', passes⟩ | ⟨before, step, after, state, world', text, order, passes, tells⟩
  · have course := passes.wholeCourse_eq
    rw [out_eq_settle (congrArg Course.result course), course]
    exact .reported rfl passes (believed_settle 0 false t.id _)
  · have course := passes.wholeCourse_eq_error order tells
    rw [out_eq_faulty (congrArg Course.result course), course]
    exact .faulty order rfl passes tells rfl rfl rfl

/-- What is said of a task alone is what comes of its course, with some measured time. -/
theorem said_iff {t : Task σ ω} {world : ω} {entered : List Step} {r : Outcome} :
    t.Said world entered r ↔
      entered = (t.wholeCourse world).entered ∧ ∃ measured, r = t.out world measured := by
  constructor
  · rintro (⟨rfl, passes, believed⟩ | ⟨order, rfl, passes, tells, id, verdict, message⟩)
    · have course := passes.wholeCourse_eq
      refine ⟨(congrArg Course.entered course).symm, 0, ?_⟩
      rw [out_eq_settle (congrArg Course.result course)]
      exact believed.unique (believed_settle 0 false t.id _)
    · have course := passes.wholeCourse_eq_error order tells
      -- whatever time is given, it can have been measured
      refine ⟨(congrArg Course.entered course).symm, r.elapsed, ?_⟩
      rw [out_eq_faulty (congrArg Course.result course)]
      exact Outcome.ext id verdict rfl message
  · rintro ⟨rfl, measured, rfl⟩
    exact t.said_out world measured

end Task

end SmokeTest.Pool
