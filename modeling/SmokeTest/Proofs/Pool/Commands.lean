/-
What a batch of commands does to the world, and what it says of each command.

* `Probe.Ran` — invocations of the commands of some probes that lead from one world to another;
* `Probe.Carries` — what came of the command of a probe so far, by the place of its job;
* `turn_of_hop` — when a job moves on, its command is invoked or the world stays as it is;
* `Probe.Judged` — what is said of a probe whose command was invoked;
* `Probe.judged_of_run` — a batch invokes each command at most once, as its probe has it, and it
  says of each probe what came of that probe's own command.

Design notes: the task of a probe keeps what it will report as its state, and other tasks only touch
the world. So the invocations are followed along the worlds, and the reports along the places of the
jobs; an invocation of one probe never shows up in the report of another one.
-/
import SmokeTest.Command
import SmokeTest.Proofs.Pool.Acceptance
import SmokeTest.Proofs.Pool.Conservation
import SmokeTest.Proofs.Pool.Independence
import SmokeTest.Proofs.Probe

namespace SmokeTest.Probe

open Pool

variable {ω : Type} {invoke : Invoker ω} {probes : List Probe} {world world' : ω}

/-! ### Invocations -/

/-- The commands of some of the probes are invoked one after the other, each with the variables of
its own probe and in the world that the one before it has left behind. An invocation is noted with
the index of its probe. -/
inductive Ran (invoke : Invoker ω) (probes : List Probe) (world : ω) :
    List (Nat × CommandRun ω) → ω → Prop
  | nil : Ran invoke probes world [] world
  | snoc {turns : List (Nat × CommandRun ω)} {world' : ω} {i : Nat} {p : Probe}
      (before : Ran invoke probes world turns world') (get : probes[i]? = some p) :
      Ran invoke probes world (turns ++ [(i, invoke p.command p.overrides world')])
        (invoke p.command p.overrides world').world

/-- What came of the invocations for one probe. -/
def runsOf (turns : List (Nat × CommandRun ω)) (i : Nat) : List (CommandRun ω) :=
  turns.filterMap fun turn => if turn.1 = i then some turn.2 else none

theorem runsOf_concat (turns : List (Nat × CommandRun ω)) (i j : Nat) (run : CommandRun ω) :
    runsOf (turns ++ [(j, run)]) i = runsOf turns i ++ if j = i then [run] else [] := by
  rw [runsOf, List.filterMap_append, ← runsOf]
  by_cases same : j = i <;> simp [same]

/-! ### One probe -/

/-- The command is invoked in one of the steps. As long as this step is still to come, nothing came
of it; afterwards the task has to report what did. -/
def Stands (p : Probe) (runs : List (CommandRun ω)) (left : List Step) (report : Outcome) : Prop :=
  if .execute ∈ left then runs = []
  else ∃ run, runs = [run] ∧ report = p.outcome run.took run.result

theorem stands_of_mem {p : Probe} {runs : List (CommandRun ω)} {left : List Step} {report : Outcome}
    (later : .execute ∈ left) : p.Stands runs left report ↔ runs = [] := by
  rw [Stands, if_pos later]

theorem stands_of_not_mem {p : Probe} {runs : List (CommandRun ω)} {left : List Step}
    {report : Outcome} (behind : .execute ∉ left) :
    p.Stands runs left report ↔ ∃ run, runs = [run] ∧ report = p.outcome run.took run.result := by
  rw [Stands, if_neg behind]

theorem stands_cons {p : Probe} {runs : List (CommandRun ω)} {step : Step} {left : List Step}
    {report : Outcome} (other : step ≠ .execute) :
    p.Stands runs (step :: left) report ↔ p.Stands runs left report := by
  simp only [Stands, List.mem_cons, other.symm, false_or]

/-- What came of the command of a probe so far, by the place of its job. -/
def Carries (p : Probe) (runs : List (CommandRun ω)) : Place Outcome ω → Prop
  | .queued _ | .held _ (.holding _) | .held _ (.cleared _) => runs = []
  | .held _ (.ready _ _ left report) => p.Stands runs left report
  | .held _ (.inside _ _ _ left ending report _) => ending = .done ∧ p.Stands runs left report
  | .held _ (.reporting _ o) | .posted o | .received o => p.Stands runs [] o
  | .held _ .idle | .held _ .stopped | .held _ .died | .dropped => True

/-- The step that invokes the command does not come back. -/
theorem execute_not_mem {before left : List Step} (order : before ++ .execute :: left = Step.all) :
    .execute ∉ left := by
  have nodup : Step.all.Nodup := by decide
  rw [← order] at nodup
  exact (List.nodup_cons.mp (List.nodup_append.mp nodup).2.1).1

/-- When the job of a probe moves on, either the world stays as it is, or the command is invoked
with the variables of this probe, for the first time, and the job carries what comes of it. -/
theorem turn_of_hop {p : Probe} {i : Nat} {pl pl' : Place Outcome ω}
    {notes added : List Note} {runs : List (CommandRun ω)}
    (told : Told (p.task invoke) i pl notes) (hop : Hop world world' i pl pl' added)
    (carries : p.Carries runs pl) :
    (world' = world ∧ (entries i added).count .execute = 0 ∧ p.Carries runs pl') ∨
      world' = (invoke p.command p.overrides world).world ∧
        (entries i added).count .execute = 1 ∧
        p.Carries (runs ++ [invoke p.command p.overrides world]) pl' := by
  cases hop with
  | take | clear => exact .inl ⟨rfl, rfl, carries⟩
  | skip | die | lose => exact .inl ⟨rfl, rfl, trivial⟩
  | start w j started =>
    obtain ⟨index, task⟩ := j
    cases told
    exact .inl ⟨rfl, rfl, (stands_of_mem (by decide)).mpr carries⟩
  | enter w j started due step left report =>
    obtain ⟨index, task⟩ := j
    cases told with
    | ready _ _ order =>
      cases step with
      | execute =>
        -- the one step that invokes the command
        obtain rfl : runs = [] := (stands_of_mem List.mem_cons_self).mp carries
        refine .inr ⟨rfl, by simp [entries], rfl,
          (stands_of_not_mem (execute_not_mem order)).mpr ?_⟩
        exact ⟨_, rfl, rfl⟩
      | prepare | conclude | validate =>
        exact .inl ⟨rfl, by simp [entries], rfl, (stands_cons (by decide)).mp carries⟩
  | pass => exact .inl ⟨rfl, by simp [entries], carries.2⟩
  | fail w j started due elapsed step left state fault =>
    rw [carries.1] at fault
    cases fault
  | finish w j started report =>
    obtain ⟨index, task⟩ := j
    cases told
    exact .inl ⟨rfl, rfl, carries⟩
  | send => exact .inl ⟨rfl, rfl, carries⟩
  | receive => exact .inl ⟨rfl, rfl, carries⟩

/-! ### A batch of probes -/

/-- The invocations up to a state: they explain the world, each job carries what came of its own
command, and a command was invoked as often as its job has entered the step for it. -/
structure Traced (invoke : Invoker ω) (probes : List Probe) (world : ω)
    (turns : List (Nat × CommandRun ω)) (s : State Outcome ω) : Prop where
  ran : Ran invoke probes world turns s.world
  carries : ∀ i pl, (i, pl) ∈ s.places → ∀ p, probes[i]? = some p → p.Carries (runsOf turns i) pl
  count : ∀ i, (runsOf turns i).length = (entries i (history s.log i)).count .execute

variable {s s' : State Outcome ω} {turns turns' : List (Nat × CommandRun ω)}

/-- The probe behind a task of the batch. -/
theorem getElem?_task {i : Nat} {t : Task Outcome ω}
    (get : (probes.map (task invoke))[i]? = some t) :
    ∃ p, probes[i]? = some p ∧ p.task invoke = t := by
  rw [List.getElem?_map] at get
  exact Option.map_eq_some_iff.mp get

theorem traced_start (invoke : Invoker ω) (probes : List Probe) (poolSize : Nat) (world : ω) :
    Traced invoke probes world [] (.start (probes.map (task invoke)) poolSize world) := by
  refine ⟨.nil, fun i pl mem p _ => ?_, fun _ => rfl⟩
  rw [State.places_start, Multiset.mem_coe, List.mem_map] at mem
  obtain ⟨j, -, same⟩ := mem
  cases same
  rfl

theorem Traced.rest (h : Traced invoke probes world turns s) (step : State.Rest s s') :
    Traced invoke probes world turns s' := by
  refine ⟨step.world ▸ h.ran, fun i pl mem => h.carries i pl (step.places ▸ mem), fun i => ?_⟩
  rw [step.history, h.count]

/-- One job moves on, and there is at most one more invocation, which is for its probe. -/
theorem Traced.goOn {index : Nat} {pl pl' : Place Outcome ω} {added : List Note} {p : Probe}
    (h : Traced invoke probes world turns s) (step : State.Advance s s' index pl pl' added)
    (ledger : State.Ledger (probes.map (task invoke)) s) (get : probes[index]? = some p)
    (ran : Ran invoke probes world turns' s'.world) (carries : p.Carries (runsOf turns' index) pl')
    (own : (runsOf turns' index).length =
      (runsOf turns index).length + (entries index added).count .execute)
    (others : ∀ i ≠ index, runsOf turns' i = runsOf turns i) :
    Traced invoke probes world turns' s' := by
  obtain ⟨rest, before, after⟩ := step.places
  refine ⟨ran, fun i q mem p' get' => ?_, fun i => ?_⟩
  · rw [after, Multiset.mem_cons] at mem
    rcases mem with same | mem
    · cases same
      cases get.symm.trans get'
      exact carries
    · have other : i ≠ index := ledger.ne_of_mem_others before mem
      rw [others i other]
      exact h.carries i q (before ▸ Multiset.mem_cons_of_mem mem) p' get'
  · rw [step.history]
    by_cases same : i = index
    · subst same
      rw [if_pos rfl, entries_append, List.count_append, own, h.count]
    · rw [if_neg same, List.append_nil, others i same, h.count]

theorem Traced.advance {index : Nat} {pl pl' : Place Outcome ω} {added : List Note}
    (h : Traced invoke probes world turns s) (step : State.Advance s s' index pl pl' added)
    (ledger : State.Ledger (probes.map (task invoke)) s) :
    ∃ turns', Traced invoke probes world turns' s' := by
  obtain ⟨rest, before, -⟩ := step.places
  have here : (index, pl) ∈ s.places := before ▸ Multiset.mem_cons_self _ _
  obtain ⟨t, task, told⟩ := ledger.stories index pl here
  obtain ⟨p, get, rfl⟩ := getElem?_task task
  rcases turn_of_hop told step.hop (h.carries index pl here p get) with
    ⟨same, none_added, carries⟩ | ⟨invoked, one_added, carries⟩
  · exact ⟨turns, h.goOn step ledger get (same ▸ h.ran) carries (by rw [none_added, Nat.add_zero])
      fun _ _ => rfl⟩
  · have own := runsOf_concat turns index index (invoke p.command p.overrides s.world)
    rw [if_pos rfl] at own
    refine ⟨turns ++ [(index, invoke p.command p.overrides s.world)],
      h.goOn step ledger get (invoked ▸ h.ran.snoc get) (own ▸ carries) ?_ fun i other => ?_⟩
    · rw [own, List.length_append, one_added, List.length_singleton]
    · rw [runsOf_concat, if_neg other.symm, List.append_nil]

/-- Behind every state that a batch of probes comes to there are invocations. -/
theorem traced_of_run {deadline : Option Nat} {poolSize : Nat} {events : List Event}
    (run : (State.start (probes.map (task invoke)) poolSize world).after? deadline events =
      some s) : ∃ turns, Traced invoke probes world turns s := by
  refine State.after?_induct (p := fun _ s => ∃ turns, Traced invoke probes world turns s)
    ⟨[], traced_start invoke probes poolSize world⟩ ?_ events s run
  intro _ _ mid s run traced step
  obtain ⟨turns, traced⟩ := traced
  rcases step.advance with rest | ⟨_, _, _, _, advance⟩
  · exact ⟨turns, traced.rest rest⟩
  · exact traced.advance advance (State.ledger_of_run run)

/-- No command is invoked twice. -/
theorem Traced.length_runsOf_le {deadline : Option Nat} {poolSize : Nat} {events : List Event}
    (h : Traced invoke probes world turns s)
    (run : (State.start (probes.map (task invoke)) poolSize world).after? deadline events =
      some s) (i : Nat) : (runsOf turns i).length ≤ 1 := by
  have ledger := State.ledger_of_run run
  have prefix_all : entries i (history s.log i) <+: Step.all := by
    by_cases lt : i < (probes.map (task invoke)).length
    · obtain ⟨pl, mem⟩ := ledger.exists_place lt
      obtain ⟨t, -, told⟩ := ledger.stories i pl mem
      exact told.shape.entries_isPrefix
    · rw [State.history_of_run run (Nat.le_of_not_lt lt)]
      exact List.nil_prefix
  rw [h.count]
  exact prefix_all.sublist.count_le .execute

/-! ### What is said of a probe -/

/-- What is said of a probe whose command was invoked: it passed exactly if the command ended with
the exit code 0, it could not be run exactly if the invoker failed, and it failed in all other
cases; the message names the probe and tells what came of its command. -/
structure Judged (p : Probe) (run : CommandRun ω) (r : Outcome) : Prop where
  id : r.id = p.id
  elapsed : r.elapsed = run.took
  pass : r.verdict = .pass ↔ ∃ c, run.result = .ok c ∧ c.exitCode = some 0
  fail : r.verdict = .fail ↔ ∃ c, run.result = .ok c ∧ c.exitCode ≠ some 0
  execError : r.verdict = .execError ↔ ∃ text, run.result = .error text
  userError : r.verdict ≠ .userError
  consistent : ∀ id reported, r ≠ mismatched id reported
  message :
    let unit := s!"{r.verdict.label}: id [{p.id}], cmd [{p.command}]"
    let ms := Text.decimal (run.took / nanosPerMilli)
    match run.result with
    | .ok c =>
      let exit := exitText c.exitCode
      r.message =
        s!"{unit}, exit [{exit}], elapsed [{ms} ms], stdout [{c.stdout}], stderr [{c.stderr}]"
    | .error text => r.message = s!"{unit}, exit [none], elapsed [{ms} ms], ERROR: {text}"

/-- What messages about a probe begin with, written out. -/
theorem details_eq (p : Probe) (verdict : Verdict) (exitCode : Option Int) (elapsed : Nat) :
    p.details verdict exitCode elapsed =
      let ms := Text.decimal (elapsed / nanosPerMilli)
      let unit := s!"{verdict.label}: id [{p.id}], cmd [{p.command}]"
      s!"{unit}, exit [{exitText exitCode}], elapsed [{ms} ms]" := by
  simp [details, summary, toString, ← String.toList_inj]

/-- What is said of a command is never that another id was reported. -/
theorem outcome_ne_mismatched (p : Probe) (elapsed : Nat) (result : Except String Completion)
    (id : String) (reported : Outcome) : p.outcome elapsed result ≠ mismatched id reported := by
  intro same
  cases result with
  | ok c =>
    have verdict := congrArg Outcome.verdict same
    cases code : c.succeeded <;> simp [outcome, mismatched, code] at verdict
  | error text =>
    -- the messages part ways behind the id
    obtain rfl : p.id = id := congrArg Outcome.id same
    have message := congrArg (String.toList ∘ Outcome.message) same
    simp [outcome, mismatched, details_eq, Verdict.label, toString] at message

theorem verdict_ok (p : Probe) (elapsed : Nat) (c : Completion) :
    (p.outcome elapsed (.ok c)).verdict = if c.exitCode = some 0 then .pass else .fail := by
  simp [outcome, Completion.succeeded]

theorem judged_outcome (p : Probe) (run : CommandRun ω) :
    p.Judged run (p.outcome run.took run.result) := by
  have consistent := outcome_ne_mismatched p run.took run.result
  cases came : run.result with
  | ok c =>
    rw [came] at consistent
    have verdict := p.verdict_ok run.took c
    refine ⟨rfl, rfl, ?_, ?_, ?_, ?_, consistent, ?_⟩
    · simp [verdict, came]
    · simp [verdict, came]
    · by_cases code : c.exitCode = some 0 <;> simp [verdict, came, code]
    · by_cases code : c.exitCode = some 0 <;> simp [verdict, code]
    · simp [came, outcome, details_eq, toString, ← String.toList_inj]
  | error text =>
    rw [came] at consistent
    refine ⟨rfl, rfl, ?_, ?_, ?_, nofun, consistent, ?_⟩
    · simp [came, outcome]
    · simp [came, outcome]
    · simp [came, outcome]
    · simp [came, outcome, details_eq, exitText, toString, ← String.toList_inj]

/-! ### The whole batch -/

/-- No command costs the worker that has it. -/
theorem sturdy_task : ∀ t ∈ probes.map (task invoke), t.lost = false ∧ t.lostBehind = false := by
  intro t mem
  obtain ⟨p, -, rfl⟩ := List.mem_map.mp mem
  exact ⟨rfl, rfl⟩

/-- When the driver of an accepted batch has answered without regard to the deadline, each command
was invoked, and its probe is given what came of it. -/
theorem Traced.judged {poolSize timeoutSeconds : Nat} {deadline : Option Nat} {events : List Event}
    (h : Traced invoke probes world turns s)
    (run : (batch invoke probes poolSize timeoutSeconds).Run deadline world events s)
    (answered : s.driver = .answered false) {i : Nat} {p : Probe} (get : probes[i]? = some p) :
    ∃ run r, runsOf turns i = [run] ∧
      ((batch invoke probes poolSize timeoutSeconds).results s)[i]? = some r ∧ p.Judged run r := by
  have task : (batch invoke probes poolSize timeoutSeconds).tasks[i]? = some (p.task invoke) := by
    rw [batch, List.getElem?_map, get, Option.map_some]
  have alive := State.alive_of_run sturdy_task run.reached
  obtain ⟨o, received⟩ :=
    run.received_of_alive answered alive (List.getElem?_eq_some_iff.mp task).1
  -- the report that was received is what came of the one invocation
  obtain ⟨came, once, rfl⟩ := (stands_of_not_mem List.not_mem_nil).mp (h.carries i _ received p get)
  have judged := p.judged_outcome came
  have named : (p.outcome came.took came.result).id = (p.task invoke).id := judged.id
  refine ⟨came, _, once, ?_, judged⟩
  rw [run.result_of_received task received, settle, if_pos named]

/-- **A batch of commands runs each of them at most once and answers for it.** Whatever the invoker,
the limits and the order of the events, the world is what invocations of commands have made of it,
each with the command and the variables of one probe, no two of them for the same probe, and each
noted as a step of its own job. If the ids can stand for the probes, and the driver has answered
before the deadline or without regard to it, then each command was invoked once, and the result in
the place of a probe tells what came of its command. -/
theorem judged_of_run (invoke : Invoker ω) (probes : List Probe) (poolSize timeoutSeconds : Nat)
    (deadline : Option Nat) (world : ω) (events : List Event) (s : State Outcome ω)
    (reached : ((batch invoke probes poolSize timeoutSeconds).start world).after? deadline events =
      some s) :
    ∃ turns, Ran invoke probes world turns s.world ∧
      (∀ i, (runsOf turns i).length ≤ 1 ∧
        (runsOf turns i ≠ [] ↔ .execute ∈ stepsEntered s.log i)) ∧
      (poolSize ≠ 0 → timeoutSeconds ≠ 0 → (probes.map Probe.id).Nodup → s.driver.isGone = true →
        s.isDue deadline = false ∨ s.driver = .answered false →
          ((batch invoke probes poolSize timeoutSeconds).results s).length = probes.length ∧
          ∀ i p, probes[i]? = some p → ∃ run r, runsOf turns i = [run] ∧
            ((batch invoke probes poolSize timeoutSeconds).results s)[i]? = some r ∧
            p.Judged run r) := by
  obtain ⟨turns, traced⟩ := traced_of_run reached
  refine ⟨turns, traced.ran, fun i => ⟨traced.length_runsOf_le reached i, ?_⟩, ?_⟩
  · rw [stepsEntered_eq_history, ← entries, ← List.count_pos_iff, ← traced.count,
      List.length_pos_iff]
  · intro workers time distinct gone untimed
    have answered : s.driver = .answered false := by
      rcases untimed with early | answered
      · exact State.answered_of_not_due (State.opening_start _ _ _) reached gone early
      · exact answered
    have ids : (batch invoke probes poolSize timeoutSeconds).ids = probes.map Probe.id := by
      rw [batch, Batch.ids, List.map_map]
      rfl
    have accepted : (batch invoke probes poolSize timeoutSeconds).fault? = none := by
      rw [Batch.fault?_eq_none_iff, ids, List.forall_mem_map]
      exact ⟨workers, time, fun p _ => p.id_ne_empty, distinct⟩
    have run : (batch invoke probes poolSize timeoutSeconds).Run deadline world events s :=
      ⟨accepted, reached⟩
    exact ⟨run.length_results.trans (List.length_map _), fun i p => traced.judged run answered⟩

/-- Keeps in the world which commands it was asked to run, with their variables; knows two of
them. -/
def recordingInvoker : Invoker (List (String × Overrides)) := fun command overrides world =>
  { result :=
      if command = "true" then .ok { exitCode := some 0, stdout := "fine" }
      else if command = "kill" then .ok { stderr := "gone" }
      else .error "not found"
    world := world ++ [(command, overrides)]
    took := 3 * nanosPerMilli }

/-- A command that ends well, one that is ended by a signal, and one that cannot be run. -/
def threeProbes : List Probe := [
  { id := "a", command := "true", overrides := .ofList [("X", "1")] },
  { id := "b", command := "kill", overrides := .ofList [("X", "2")] },
  { id := "c", command := "nope", overrides := .ofList [("X", "3")] }]

/-- The second worker overtakes the first one and takes the third job too. -/
def overtakingEvents : List Event :=
  .work 0 :: List.replicate 26 (.work 1) ++ List.replicate 12 (.work 0) ++
    (List.replicate 3 [Event.poll, .receive]).flatten ++ [.poll, .cancel, .answer]

/-- What is said of `threeProbes`. -/
def threeOutcomes : List Outcome := [
  ⟨"a", .pass, 3000000,
    "PASS: id [a], cmd [true], exit [0], elapsed [3 ms], stdout [fine], stderr []"⟩,
  ⟨"b", .fail, 3000000,
    "FAIL: id [b], cmd [kill], exit [none], elapsed [3 ms], stdout [], stderr [gone]"⟩,
  ⟨"c", .execError, 3000000,
    "EXEC_ERROR: id [c], cmd [nope], exit [none], elapsed [3 ms], ERROR: not found"⟩]

theorem judged_threeProbes :
    ∃ s, ((batch recordingInvoker threeProbes 2 60).start []).after? none overtakingEvents =
        some s ∧
      s.world = [("kill", .ofList [("X", "2")]), ("nope", .ofList [("X", "3")]),
        ("true", .ofList [("X", "1")])] ∧
      (batch recordingInvoker threeProbes 2 60).results s = threeOutcomes ∧
      ∃ turns, Ran recordingInvoker threeProbes [] turns s.world ∧
        ∀ i p, threeProbes[i]? = some p → ∃ run r, runsOf turns i = [run] ∧
          threeOutcomes[i]? = some r ∧ p.Judged run r := by
  obtain ⟨s, reached, gone, calls, results⟩ :
      ∃ s, ((batch recordingInvoker threeProbes 2 60).start []).after? none overtakingEvents =
          some s ∧ s.driver.isGone = true ∧
        s.world = [("kill", .ofList [("X", "2")]), ("nope", .ofList [("X", "3")]),
        ("true", .ofList [("X", "1")])] ∧
        (batch recordingInvoker threeProbes 2 60).results s = threeOutcomes :=
    ⟨_, rfl, rfl, rfl, by rfl⟩
  obtain ⟨turns, ran, -, settled⟩ := judged_of_run _ _ _ _ _ _ _ s reached
  obtain ⟨-, judged⟩ := settled (by decide) (by decide) (by decide) gone (.inl rfl)
  exact ⟨s, reached, calls, results, turns, ran, results ▸ judged⟩

end SmokeTest.Probe
