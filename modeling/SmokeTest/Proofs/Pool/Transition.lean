/-
What one event can do to a pool, and what holds along a run.

`Move` lists the moves of a worker and `Transition` the events of a pool, each with the condition
under which it happens and the state that it leads to.

* `next?_eq_some_iff` — the step function does what `Transition` says, and nothing else;
* `after?_append`, `after?_concat` — a run is cut at any event;
* `after?_induct` — what the start satisfies and every transition keeps holds after every run;
* `log_suffix_of_run` — along a run notes are added to the log, and none is taken away;
* `later_of_run` — the clock does not go back either;
* `Through.total` — of two states that a run comes through one leads on to the other.

Design notes: the conditions that the step function tests are all kept as hypotheses of the
constructors, so no later proof opens `next?` or `move?` again.
-/
import Mathlib.Data.List.Induction
import SmokeTest.Pool.State

namespace SmokeTest.Pool.State

variable {σ ω : Type}

/-- The moves of the worker `w`, by the phase that it is in. -/
inductive Move (s : State σ ω) (w : Nat) : Worker σ ω → State σ ω → Prop
  | stop (queue : s.queue = []) : Move s w .idle (s.setWorker w .stopped)
  | take {j : Job σ ω} {rest : List (Job σ ω)} (queue : s.queue = j :: rest) :
      Move s w .idle
        (({ s with queue := rest }.setWorker w (.holding j)).note (.taken w j.index))
  | skip {j : Job σ ω} (cancelled : s.cancelled = true) :
      Move s w (.holding j) ((s.setWorker w .stopped).note (.dropped j.index))
  | clear {j : Job σ ω} (cancelled : s.cancelled = false) :
      Move s w (.holding j) (s.setWorker w (.cleared j))
  | die {j : Job σ ω} (lost : j.task.lost = true) :
      Move s w (.cleared j) ((s.setWorker w .died).note (.dropped j.index))
  | start {j : Job σ ω} (lost : j.task.lost = false) :
      Move s w (.cleared j) (s.setWorker w (.ready j s.clock Step.all j.task.state))
  | finish {j : Job σ ω} {started : Nat} {state : σ} :
      Move s w (.ready j started [] state)
        (s.setWorker w (.reporting j (j.task.outcome state)))
  | enter {j : Job σ ω} {started : Nat} {step : Step} {left : List Step} {state : σ}
      {r : Reply σ ω} (reply : j.task.act step state s.world = r) :
      Move s w (.ready j started (step :: left) state)
        (({ s with world := r.world }.setWorker w
          (.inside j started step left r.ending r.state (s.clock + r.took))).note
            (.entered j.index step))
  | pass {j : Job σ ω} {started due : Nat} {step : Step} {left : List Step} {ending : Ending}
      {state : σ} (fault : ending.fault? = none) :
      Move s w (.inside j started step left ending state due)
        ((s.setWorker w (.ready j started left state)).note (.left j.index step ending))
  | fail {j : Job σ ω} {started due : Nat} {step : Step} {left : List Step} {ending : Ending}
      {state : σ} {text : String} (fault : ending.fault? = some text) :
      Move s w (.inside j started step left ending state due)
        ((s.setWorker w (.reporting j (j.task.faulty text (s.clock - started)))).note
          (.left j.index step ending))
  | dieBehind {j : Job σ ω} {o : Outcome} (lost : j.task.lostBehind = true) :
      Move s w (.reporting j o) ((s.setWorker w .died).note (.dropped j.index))
  | discard {j : Job σ ω} {o : Outcome} (lost : j.task.lostBehind = false)
      (gone : s.driver.isGone = true) :
      Move s w (.reporting j o) ((s.setWorker w .stopped).note (.dropped j.index))
  | send {j : Job σ ω} {o : Outcome} (lost : j.task.lostBehind = false)
      (present : s.driver.isGone = false) :
      Move s w (.reporting j o)
        (({ s with channel := s.channel ++ [(j.index, o)] }.setWorker w .idle).note
          (.sent j.index o))

/-- The events of a pool whose time is over at `deadline`. -/
inductive Transition (deadline : Option Nat) (s : State σ ω) : Event → State σ ω → Prop
  | tick (nanos : Nat) : Transition deadline s (.tick nanos) { s with clock := s.clock + nanos }
  | work {w : Nat} {p : Worker σ ω} {s' : State σ ω} (here : s.workers[w]? = some p)
      (move : Move s w p s') : Transition deadline s (.work w) s'
  | complete (driver : s.driver = .collecting) (outstanding : s.collector.outstanding = 0) :
      Transition deadline s .poll { s with driver := .collected false }
  | late (driver : s.driver = .collecting) (outstanding : s.collector.outstanding ≠ 0)
      (late : s.isLate deadline = true) :
      Transition deadline s .poll { s with driver := .collected true }
  | wait (driver : s.driver = .collecting) (outstanding : s.collector.outstanding ≠ 0)
      (late : s.isLate deadline = false) :
      Transition deadline s .poll { s with driver := .waiting }
  | receive {index : Nat} {o : Outcome} {rest : List (Nat × Outcome)}
      (driver : s.driver = .waiting) (channel : s.channel = (index, o) :: rest) :
      Transition deadline s .receive
        ({ s with
            channel := rest
            collector := s.collector.receive index o
            driver := .collecting }.note (.received index o))
  | expire (driver : s.driver = .waiting) (channel : s.channel = [])
      (due : s.isDue deadline = true) :
      Transition deadline s .expire { s with driver := .collected true }
  | disconnect (driver : s.driver = .waiting) (channel : s.channel = [])
      (gone : s.workers.all Worker.isGone = true) :
      Transition deadline s .disconnect { s with driver := .collected false }
  | cancel {timedOut : Bool} (driver : s.driver = .collected timedOut) :
      Transition deadline s .cancel
        ({ s with driver := .closing timedOut, cancelled := true }.note .cancelled)
  | answer {timedOut : Bool} (driver : s.driver = .closing timedOut) :
      Transition deadline s .answer { s with driver := .answered timedOut }

/-! ### The step function -/

theorem move?_eq_some_iff {s s' : State σ ω} {w : Nat} {p : Worker σ ω} :
    s.move? w p = some s' ↔ Move s w p s' := by
  constructor
  · intro h
    cases p with
    | idle =>
      cases hq : s.queue with
      | nil =>
        simp only [move?, hq, Option.some.injEq] at h
        exact h ▸ .stop hq
      | cons j rest =>
        simp only [move?, hq, Option.some.injEq] at h
        exact h ▸ .take hq
    | holding j =>
      cases hc : s.cancelled <;> simp only [move?, hc, if_true, if_false, Option.some.injEq,
        Bool.false_eq_true] at h
      · exact h ▸ .clear hc
      · exact h ▸ .skip hc
    | cleared j =>
      cases hl : j.task.lost <;> simp only [move?, hl, if_true, if_false, Option.some.injEq,
        Bool.false_eq_true] at h
      · exact h ▸ .start hl
      · exact h ▸ .die hl
    | ready j started left state =>
      cases left with
      | nil =>
        simp only [move?, Option.some.injEq] at h
        exact h ▸ .finish
      | cons step left =>
        simp only [move?, Option.some.injEq] at h
        exact h ▸ .enter rfl
    | inside j started step left ending state due =>
      cases hf : ending.fault? <;> simp only [move?, hf, Option.some.injEq] at h
      · exact h ▸ .pass hf
      · exact h ▸ .fail hf
    | reporting j o =>
      cases hl : j.task.lostBehind with
      | true =>
        simp only [move?, hl, if_true, Option.some.injEq] at h
        exact h ▸ .dieBehind hl
      | false =>
        cases hd : s.driver.isGone <;> simp only [move?, hl, hd, if_true, if_false,
          Option.some.injEq, Bool.false_eq_true] at h
        · exact h ▸ .send hl hd
        · exact h ▸ .discard hl hd
    | stopped => simp [move?] at h
    | died => simp [move?] at h
  · intro h
    cases h with
    | enter reply => subst reply; rfl
    | _ => simp_all [move?]

theorem next?_eq_some_iff {deadline : Option Nat} {s s' : State σ ω} {e : Event} :
    s.next? deadline e = some s' ↔ Transition deadline s e s' := by
  constructor
  · intro h
    cases e with
    | tick nanos =>
      simp only [next?, Option.some.injEq] at h
      exact h ▸ .tick nanos
    | work w =>
      simp only [next?, Option.bind_eq_some_iff] at h
      obtain ⟨p, here, move⟩ := h
      exact .work here (move?_eq_some_iff.mp move)
    | poll =>
      by_cases hd : s.driver = .collecting
      · by_cases ho : s.collector.outstanding = 0
        · simp only [next?, hd, ho, if_true, Option.some.injEq] at h
          exact h ▸ .complete hd ho
        · cases hl : s.isLate deadline <;> simp only [next?, hd, ho, hl, if_true, if_false,
            Option.some.injEq, Bool.false_eq_true] at h
          · exact h ▸ .wait hd ho hl
          · exact h ▸ .late hd ho hl
      · simp [next?, hd] at h
    | receive =>
      simp only [next?] at h
      split at h
      · next hd hc => exact Option.some.inj h ▸ .receive hd hc
      · cases h
    | expire =>
      simp only [next?] at h
      split at h
      · next hc => exact Option.some.inj h ▸ .expire hc.1 (List.isEmpty_iff.mp hc.2.1) hc.2.2
      · cases h
    | disconnect =>
      simp only [next?] at h
      split at h
      · next hc => exact Option.some.inj h ▸ .disconnect hc.1 (List.isEmpty_iff.mp hc.2.1) hc.2.2
      · cases h
    | cancel =>
      simp only [next?] at h
      split at h
      · next hd => exact Option.some.inj h ▸ .cancel hd
      · cases h
    | answer =>
      simp only [next?] at h
      split at h
      · next hd => exact Option.some.inj h ▸ .answer hd
      · cases h
  · intro h
    cases h with
    | work here move => simp [next?, here, move?_eq_some_iff.mpr move]
    | _ => simp_all [next?]

/-! ### Runs -/

theorem after?_append (deadline : Option Nat) (before after : List Event) (s : State σ ω) :
    s.after? deadline (before ++ after) =
      (s.after? deadline before).bind (State.after? deadline after) := by
  induction before generalizing s with
  | nil => rfl
  | cons e rest ih =>
    simp only [List.cons_append, after?]
    cases s.next? deadline e with
    | none => rfl
    | some mid => exact ih mid

/-- The last event of a run is a transition. -/
theorem after?_concat {deadline : Option Nat} {before : List Event} {e : Event}
    {s s' : State σ ω} :
    s.after? deadline (before ++ [e]) = some s' ↔
      ∃ mid, s.after? deadline before = some mid ∧ Transition deadline mid e s' := by
  rw [after?_append, Option.bind_eq_some_iff]
  refine exists_congr fun mid => and_congr_right fun _ => ?_
  rw [← next?_eq_some_iff]
  cases h : mid.next? deadline e <;> simp [after?, h]

/-- What holds at first and is kept by every transition holds after every run. -/
theorem after?_induct {deadline : Option Nat} {s₀ : State σ ω} {p : List Event → State σ ω → Prop}
    (start : p [] s₀)
    (keep : ∀ before e mid s, s₀.after? deadline before = some mid → p before mid →
      Transition deadline mid e s → p (before ++ [e]) s) :
    ∀ events s, s₀.after? deadline events = some s → p events s := by
  intro events
  induction events using List.reverseRecOn with
  | nil =>
    intro s h
    cases h
    exact start
  | append_singleton before e ih =>
    intro s h
    obtain ⟨mid, hmid, step⟩ := after?_concat.mp h
    exact keep before e mid s hmid (ih mid hmid) step

/-! ### Later states -/

/-- The clock has not gone back, and nothing that was noted is forgotten. -/
structure Later (s s' : State σ ω) : Prop where
  clock : s.clock ≤ s'.clock
  log : ∀ n ∈ s.log, n ∈ s'.log

theorem Move.clock {s s' : State σ ω} {w : Nat} {phase : Worker σ ω}
    (move : Move s w phase s') : s'.clock = s.clock := by
  cases move <;> rfl

theorem Move.log_suffix {s s' : State σ ω} {w : Nat} {phase : Worker σ ω}
    (move : Move s w phase s') : s.log <:+ s'.log := by
  cases move with
  | stop | clear | start | finish => exact List.suffix_rfl
  | take | skip | die | enter | pass | fail | dieBehind | discard | send =>
    exact List.suffix_cons _ _

/-- Notes are added in front of the log, and none of it is taken away. -/
theorem Transition.log_suffix {deadline : Option Nat} {s s' : State σ ω} {e : Event}
    (step : Transition deadline s e s') : s.log <:+ s'.log := by
  cases step with
  | work here move => exact move.log_suffix
  | receive | cancel => exact List.suffix_cons _ _
  | tick | complete | late | wait | expire | disconnect | answer => exact List.suffix_rfl

theorem log_suffix_of_run {deadline : Option Nat} {s s' : State σ ω} {events : List Event}
    (run : s.after? deadline events = some s') : s.log <:+ s'.log :=
  after?_induct (p := fun _ s' => s.log <:+ s'.log) List.suffix_rfl
    (fun _ _ _ _ _ ih step => ih.trans step.log_suffix) events s' run

theorem Transition.later {deadline : Option Nat} {s s' : State σ ω} {e : Event}
    (step : Transition deadline s e s') : Later s s' := by
  refine ⟨?_, fun _ mem => step.log_suffix.subset mem⟩
  cases step with
  | tick nanos => exact Nat.le_add_right _ _
  | work here move => exact Nat.le_of_eq move.clock.symm
  | complete | late | wait | receive | expire | disconnect | cancel | answer =>
    exact Nat.le_refl _

theorem later_of_run {deadline : Option Nat} {s s' : State σ ω} {events : List Event}
    (run : s.after? deadline events = some s') : Later s s' := by
  refine after?_induct (p := fun _ s' => Later s s') ⟨Nat.le_refl _, fun _ => id⟩ ?_ events s' run
  intro _ _ mid s' _ h step
  exact ⟨Nat.le_trans h.clock step.later.clock, fun n mem => step.later.log n (h.log n mem)⟩

/-- The run from `s` by the events comes through the state. -/
def Through (deadline : Option Nat) (s : State σ ω) (events : List Event) (mid : State σ ω) :
    Prop :=
  ∃ before rest, events = before ++ rest ∧ s.after? deadline before = some mid

theorem Through.leads {deadline : Option Nat} {s s' mid : State σ ω} {events : List Event}
    (h : Through deadline s events mid) (run : s.after? deadline events = some s') :
    ∃ rest, mid.after? deadline rest = some s' := by
  obtain ⟨before, rest, rfl, reached⟩ := h
  rw [after?_append, reached] at run
  exact ⟨rest, run⟩

/-- Of two states that a run comes through one leads on to the other. -/
theorem Through.total {deadline : Option Nat} {s mid mid' : State σ ω} {events : List Event}
    (h : Through deadline s events mid) (h' : Through deadline s events mid') :
    (∃ between, mid.after? deadline between = some mid') ∨
      ∃ between, mid'.after? deadline between = some mid := by
  obtain ⟨before, rest, rfl, reached⟩ := h
  obtain ⟨before', rest', split, reached'⟩ := h'
  rcases List.append_eq_append_iff.mp split with ⟨between, rfl, -⟩ | ⟨between, rfl, -⟩
  · rw [after?_append, reached] at reached'
    exact .inl ⟨between, reached'⟩
  · rw [after?_append, reached'] at reached
    exact .inr ⟨between, reached⟩

end SmokeTest.Pool.State
