/-
How a run of the program ends.

* `Check` — what may be wrong with the arguments of a run, in the order in which it is looked for;
* `Leads` — what a command line leads to, in whatever order the workers and the driver move;
* `batch_cases` — a run has a batch if no check fails, and none because of the first one that does;
* `exit_tells` — the exit code tells the first check that failed; as long as it does, no command was
  run and nothing was reported; and otherwise it tells whether everything passed.

Design notes: a check is stated without regard to the other ones, and it is the same for every
invoker. That nothing was run is said of the world, which may be one that keeps every command.
-/
import SmokeTest.CommandLine.Program
import SmokeTest.Proofs.CommandLine.Printing
import SmokeTest.Proofs.CommandLine.Words
import SmokeTest.Proofs.Loading
import SmokeTest.Proofs.Pool.Passing
import SmokeTest.Proofs.Pool.Schedule

namespace SmokeTest.CommandLine

open Pool (Batch Event State)

/-! ### Checks -/

/-- What is looked at before a run, apart from the form of its arguments. -/
inductive Check
  | directory
  | tag
  | filter
  | reading
  | loading
  | batch
  deriving DecidableEq, Repr

/-- The checks that come before, in their order. -/
def Check.before : Check → List Check
  | directory => []
  | tag => [directory]
  | filter => [directory, tag]
  | reading => [directory, tag, filter]
  | loading => [directory, tag, filter, reading]
  | batch => [directory, tag, filter, reading, loading]

/-- The number that the system is told if the check is the first one to fail. -/
def Check.code : Check → Nat
  | directory => 1
  | tag | filter => 2
  | reading => 4
  | loading | batch => 3

/-- The plan can be run as a batch: it has a worker and time, and ids that tell its probes apart. -/
structure IsBatch (plan : Plan) : Prop where
  workers : plan.context.poolSize ≠ 0
  time : plan.context.timeoutSeconds ≠ 0
  distinct : (plan.probes.map Probe.id).Nodup

variable {words : List String} {s : Surroundings} {a : Arguments}

/-- What the text of the source of a run amounts to, under the options of the run. -/
inductive Loads (words : List String) (s : Surroundings) (a : Arguments) : Except Error Plan → Prop
  | read {o : Options} {text : String} (options : a.options s.nameStart = .ok o)
      (read : s.files.readText? s.directory a.source = some text) :
      Loads words s a (Plan.ofText (.ofPath a.source) o
        { configFile := a.source, commandLine := " ".intercalate words } text)

/-- The check fails for the arguments of a run. -/
def Check.Fails (words : List String) (s : Surroundings) (a : Arguments) : Check → Prop
  | directory => ∃ path, a.settings.directory = some path ∧
      s.files.hasDirectory s.directory path = false
  | tag => a.tag.trimBlank = ""
  | filter => ∃ text fault, a.filter = some text ∧ Filter.parse text = .error fault
  | reading => s.files.readText? s.directory a.source = none
  | loading => ∃ fault, Loads words s a (.error fault)
  | batch => ∃ plan, Loads words s a (.ok plan) ∧ ¬ IsBatch plan

/-- The check is the first one that fails. -/
def Check.IsFirst (words : List String) (s : Surroundings) (a : Arguments) (c : Check) : Prop :=
  c.Fails words s a ∧ ∀ earlier ∈ c.before, ¬ earlier.Fails words s a

theorem Check.mem_before (c c' : Check) : c = c' ∨ c ∈ c'.before ∨ c' ∈ c.before := by
  cases c <;> cases c' <;> decide

theorem Check.IsFirst.unique {c c' : Check} (h : c.IsFirst words s a) (h' : c'.IsFirst words s a) :
    c = c' := by
  rcases Check.mem_before c c' with same | earlier | later
  · exact same
  · exact absurd h.1 (h'.2 c earlier)
  · exact absurd h'.1 (h.2 c' later)

theorem Loads.unique {r r' : Except Error Plan} (h : Loads words s a r) (h' : Loads words s a r') :
    r = r' := by
  cases h with
  | read options read =>
    cases h' with
    | read options' read' =>
      cases options.symm.trans options'
      cases read.symm.trans read'
      rfl

theorem Loads.ne_unreadable (h : Loads words s a (.error .unreadable)) : False := by
  generalize failed : (.error .unreadable : Except Error Plan) = r at h
  cases h with
  | read => exact Plan.ofText_ne_unreadable failed.symm

/-! ### What the checks come to -/

/-- There is a place to run commands in, unless the check of the directory fails. -/
theorem place?_cases (words : List String) (s : Surroundings) (a : Arguments) :
    (∃ l, a.place? s = .ok l ∧ ¬ Check.directory.Fails words s a) ∨
      ∃ path, a.place? s = .error (.noDirectory path) ∧ Check.directory.Fails words s a := by
  rw [Arguments.place?]
  cases asked : a.settings.directory with
  | none => exact .inl ⟨_, rfl, fun ⟨path, named, _⟩ => by cases asked.symm.trans named⟩
  | some path =>
    have fails : Check.directory.Fails words s a ↔
        (s.files.locate? s.directory path).bind s.files.entry? ≠ some .directory := by
      simp [Check.Fails, asked, FileTree.hasDirectory, FileTree.find?]
    rw [fails]
    dsimp only
    cases s.files.locate? s.directory path with
    | none => exact .inr ⟨path, rfl, nofun⟩
    | some l =>
      dsimp only
      cases there : s.files.isDirectory l with
      | true => exact .inl ⟨l, rfl, not_not.mpr (beq_iff_eq.mp there)⟩
      | false => exact .inr ⟨path, rfl, beq_eq_false_iff_ne.mp there⟩

/-- There are options, unless the check of the tag or that of the filter fails. -/
theorem options_cases (words : List String) (s : Surroundings) (a : Arguments) :
    (∃ o, a.options s.nameStart = .ok o ∧ ¬ Check.tag.Fails words s a ∧
      ¬ Check.filter.Fails words s a) ∨
    ∃ fault, a.options s.nameStart = .error fault ∧
      (Check.tag.Fails words s a ∨
        ¬ Check.tag.Fails words s a ∧ Check.filter.Fails words s a) := by
  rw [Arguments.options, Options.ofTag]
  cases left : Tag.ofText? a.tag with
  | none => exact .inr ⟨_, rfl, .inl (Tag.ofText?_eq_none_iff.mp left)⟩
  | some t =>
    -- a text that is blank has no tag in it
    have blank : ¬ Check.tag.Fails words s a := fun fails => by
      cases left.symm.trans (Tag.ofText?_eq_none_iff.mpr fails)
    cases asked : a.filter with
    | none => exact .inl ⟨_, rfl, blank, fun ⟨text, _, named, _⟩ => by cases asked.symm.trans named⟩
    | some text =>
      have fails : Check.filter.Fails words s a ↔ ∃ fault, Filter.parse text = .error fault := by
        simp [Check.Fails, asked]
      rw [fails]
      simp only [bind, Except.bind, pure, Except.pure]
      cases Filter.parse text with
      | error fault => exact .inr ⟨fault, rfl, .inr ⟨blank, fault, rfl⟩⟩
      | ok f => exact .inl ⟨_, rfl, blank, nofun⟩

/-- The plan of the source is loaded, unless it cannot be read or loading fails. -/
theorem load_cases (words : List String) {o : Options} (options : a.options s.nameStart = .ok o) :
    (∃ plan, Plan.load s.files s.directory a.source o
          { configFile := a.source, commandLine := " ".intercalate words } = .ok plan ∧
        Loads words s a (.ok plan) ∧ ¬ Check.reading.Fails words s a) ∨
      ∃ fault, Plan.load s.files s.directory a.source o
          { configFile := a.source, commandLine := " ".intercalate words } = .error fault ∧
        (fault = .unreadable ∧ Check.reading.Fails words s a ∨
          fault ≠ .unreadable ∧ ¬ Check.reading.Fails words s a ∧
            Loads words s a (.error fault)) := by
  rw [Plan.load_eq]
  cases text : s.files.readText? s.directory a.source with
  | none => exact .inr ⟨.unreadable, rfl, .inl ⟨rfl, text⟩⟩
  | some chars =>
    have readable : ¬ Check.reading.Fails words s a := by
      intro unreadable
      cases text.symm.trans unreadable
    have loads : Loads words s a _ := .read options text
    dsimp only
    generalize Plan.ofText (.ofPath a.source) o _ chars = r at loads
    cases r with
    | ok plan => exact .inl ⟨plan, rfl, loads, readable⟩
    | error fault =>
      refine .inr ⟨fault, rfl, .inr ⟨?_, readable, loads⟩⟩
      rintro rfl
      exact loads.ne_unreadable

/-- A source that is refused for another reason than that it cannot be read. -/
theorem exitCode_of_readable {fault : Error} (readable : fault ≠ .unreadable) :
    (Failure.source fault).exitCode.toNat = 3 := by
  cases fault with
  | unreadable => exact absurd rfl readable
  | _ => rfl

/-- The batch of a plan is accepted exactly if the plan can be run as one. -/
theorem isBatch_iff {ω : Type} {plan : Plan} (invoke : Invoker ω) :
    (plan.batch invoke).fault? = none ↔ IsBatch plan := by
  rw [Batch.fault?_eq_none_iff, plan.ids_batch, List.forall_mem_map]
  exact ⟨fun ⟨workers, time, _, distinct⟩ => ⟨workers, time, distinct⟩,
    fun fit => ⟨fit.workers, fit.time, fun p _ => p.id_ne_empty, fit.distinct⟩⟩

/-- The batch of a plan is accepted, unless the last check fails. -/
theorem fault?_cases {ω : Type} {plan : Plan} (loads : Loads words s a (.ok plan))
    (invoke : Invoker ω) :
    ((plan.batch invoke).fault? = none ∧ ¬ Check.batch.Fails words s a) ∨
      ∃ fault, (plan.batch invoke).fault? = some fault ∧ Check.batch.Fails words s a := by
  cases refused : (plan.batch invoke).fault? with
  | none =>
    refine .inl ⟨rfl, ?_⟩
    rintro ⟨other, loads', unfit⟩
    cases loads.unique loads'
    exact unfit ((isBatch_iff invoke).mp refused)
  | some fault =>
    refine .inr ⟨fault, rfl, plan, loads, fun fit => ?_⟩
    cases refused.symm.trans ((isBatch_iff invoke).mpr fit)

/-- A run either has a batch and no check fails, or it has none, because of the first check that
fails. -/
theorem batch_cases {ω : Type} (words : List String) (s : Surroundings) (a : Arguments)
    (invoke : Location → Invoker ω) :
    (∃ plan l, a.batch words s invoke = .ok (plan.batch (invoke l)) ∧
        (plan.batch (invoke l)).fault? = none ∧ Loads words s a (.ok plan) ∧
        a.place? s = .ok l ∧ ∀ c : Check, ¬ c.Fails words s a) ∨
      ∃ f c, a.batch words s invoke = .error f ∧ Check.IsFirst words s a c ∧
        f.exitCode.toNat = c.code := by
  rw [Arguments.batch]
  rcases place?_cases words s a with ⟨l, place, directory⟩ | ⟨path, place, fails⟩
  · rcases options_cases words s a with ⟨o, options, tag, filter⟩ | ⟨fault, options, fails⟩
    · rcases load_cases words options with ⟨plan, load, loads, reading⟩ | ⟨fault, load, fails⟩
      · have loading : ¬ Check.loading.Fails words s a := by
          rintro ⟨fault, failed⟩
          cases loads.unique failed
        have same : Probe.batch (invoke l) plan.probes plan.context.poolSize
          plan.context.timeoutSeconds = plan.batch (invoke l) := rfl
        simp only [place, options, load, bind, Except.bind, Except.mapError, same]
        rcases fault?_cases loads (invoke l) with ⟨accepted, batch⟩ | ⟨fault, refused, fails⟩
        · rw [accepted]
          exact .inl ⟨plan, l, rfl, accepted, loads, rfl, fun c => by cases c <;> assumption⟩
        · rw [refused]
          refine .inr ⟨_, .batch, rfl, ⟨fails, ?_⟩, rfl⟩
          simp [Check.before, directory, tag, filter, reading, loading]
      · simp only [place, options, load, bind, Except.bind, Except.mapError]
        rcases fails with ⟨rfl, fails⟩ | ⟨readable, reading, failed⟩
        · refine .inr ⟨_, .reading, rfl, ⟨fails, ?_⟩, rfl⟩
          simp [Check.before, directory, tag, filter]
        · refine .inr ⟨_, .loading, rfl, ⟨⟨fault, failed⟩, ?_⟩, exitCode_of_readable readable⟩
          simp [Check.before, directory, tag, filter, reading]
    · simp only [place, options, bind, Except.bind, Except.mapError]
      rcases fails with fails | ⟨tag, fails⟩
      · exact .inr ⟨_, .tag, rfl, ⟨fails, by simp [Check.before, directory]⟩, rfl⟩
      · exact .inr ⟨_, .filter, rfl, ⟨fails, by simp [Check.before, directory, tag]⟩, rfl⟩
  · simp only [place, bind, Except.bind]
    exact .inr ⟨_, .directory, rfl, ⟨fails, nofun⟩, rfl⟩

/-! ### What a command line leads to -/

/-- What a command line leads to, and the world behind it: an ending without a batch, or what is
shown of the batch when its driver has answered after some events. -/
inductive Leads {ω : Type} (words : List String) (s : Surroundings) (invoke : Location → Invoker ω)
    (world : ω) : Ending → ω → Prop
  | ended {e : Ending} (begins : Beginning.ofWords words s invoke = .ended e) :
      Leads words s invoke world e world
  | batch {a : Arguments} {b : Batch Outcome ω} {events : List Event} {pool : State Outcome ω}
      (begins : Beginning.ofWords words s invoke = .batch a b)
      (run : b.Run b.deadline? world events pool) (answered : pool.driver.isGone = true) :
      Leads words s invoke world (.ofPool a s b pool) pool.world

/-- The batch of the plan of a run was run until its driver answered, and what it says of the probes
was printed, with the true figures. The code tells whether all of them passed. -/
def Reports {ω : Type} (words : List String) (s : Surroundings) (a : Arguments)
    (invoke : Location → Invoker ω) (world : ω) (ending : Ending) (world' : ω) : Prop :=
  ∃ plan l events pool, Loads words s a (.ok plan) ∧ a.place? s = .ok l ∧
    (plan.batch (invoke l)).Run (plan.batch (invoke l)).deadline? world events pool ∧
    pool.driver.isGone = true ∧ world' = pool.world ∧
    ending.output = bannerText ++ unlines [a.report s (plan.batch (invoke l)) pool] ∧
    let outcomes := (plan.batch (invoke l)).results pool
    Printed (s.hasColor && !a.settings.noColor) outcomes pool.clock ending.output ∧
    ((∀ r ∈ outcomes, r.verdict = .pass) → ending.exitCode.toNat = 0) ∧
      ((¬ ∀ r ∈ outcomes, r.verdict = .pass) → ending.exitCode.toNat = 5)

section Leads

variable {ω : Type} {invoke : Location → Invoker ω} {world world' : ω} {ending : Ending}

theorem begins_batch {b : Batch Outcome ω} (demand : Demand.ofWords words = .ok (.run a))
    (ready : a.batch words s invoke = .ok b) : Beginning.ofWords words s invoke = .batch a b := by
  simp only [Beginning.ofWords, demand, ready]

theorem begins_ended {f : Failure} (demand : Demand.ofWords words = .ok (.run a))
    (refused : a.batch words s invoke = .error f) :
    Beginning.ofWords words s invoke =
      .ended { output := bannerText, exitCode := f.exitCode, failure := some f } := by
  simp only [Beginning.ofWords, demand, refused]

/-- A batch that a command line comes to is accepted. -/
theorem accepted_of_begins {b : Batch Outcome ω}
    (begins : Beginning.ofWords words s invoke = .batch a b) : b.fault? = none := by
  cases demand : Demand.ofWords words with
  | error e =>
    rw [Beginning.ofWords, demand] at begins
    cases begins
  | ok asked =>
    cases asked with
    | help | version =>
      rw [Beginning.ofWords, demand] at begins
      cases begins
    | run a' =>
      rcases batch_cases words s a' invoke with ⟨plan, l, ready, accepted, -⟩ | ⟨f, c, refused, -⟩
      · cases (begins_batch demand ready).symm.trans begins
        exact accepted
      · cases (begins_ended demand refused).symm.trans begins

/-- A command line leads to what is made of it. -/
theorem exists_leads (words : List String) (s : Surroundings) (invoke : Location → Invoker ω)
    (world : ω) :
    ∃ world', Leads words s invoke world (.ofWords words s invoke world) world' := by
  rw [Ending.ofWords]
  cases begins : Beginning.ofWords words s invoke with
  | ended e => exact ⟨world, .ended begins⟩
  | batch a b =>
    obtain ⟨events, reached⟩ := State.exists_events_follow b.deadline? b.events (b.start world)
    exact ⟨_, .batch begins ⟨accepted_of_begins begins, reached⟩ (b.isGone_final world)⟩

theorem Leads.of_ended (h : Leads words s invoke world ending world') {e : Ending}
    (begins : Beginning.ofWords words s invoke = .ended e) : ending = e ∧ world' = world := by
  cases h with
  | ended begins' =>
    cases begins.symm.trans begins'
    exact ⟨rfl, rfl⟩
  | batch begins' => cases begins.symm.trans begins'

theorem Leads.of_batch (h : Leads words s invoke world ending world') {b : Batch Outcome ω}
    (begins : Beginning.ofWords words s invoke = .batch a b) :
    ∃ events pool, b.Run b.deadline? world events pool ∧ pool.driver.isGone = true ∧
      ending = .ofPool a s b pool ∧ world' = pool.world := by
  cases h with
  | ended begins' => cases begins.symm.trans begins'
  | batch begins' run answered =>
    cases begins.symm.trans begins'
    exact ⟨_, _, run, answered, rfl, rfl⟩

/-- Nothing was run and nothing was reported. -/
def Silent (s : Surroundings) (world : ω) (ending : Ending) (world' : ω) : Prop :=
  world' = world ∧ (ending.output = usageText s.nameStart ∨ ending.output = bannerText)

theorem Leads.of_help (h : Leads words s invoke world ending world')
    (demand : Demand.ofWords words = .ok .help) :
    ending.exitCode.toNat = 0 ∧ ending.output = usageText s.nameStart ∧ world' = world := by
  obtain ⟨rfl, rfl⟩ := h.of_ended (by rw [Beginning.ofWords, demand])
  exact ⟨rfl, rfl, rfl⟩

theorem Leads.of_version (h : Leads words s invoke world ending world')
    (demand : Demand.ofWords words = .ok .version) :
    ending.exitCode.toNat = 0 ∧ ending.output = versionText ∧ world' = world := by
  obtain ⟨rfl, rfl⟩ := h.of_ended (by rw [Beginning.ofWords, demand])
  exact ⟨rfl, rfl, rfl⟩

theorem Leads.of_fault (h : Leads words s invoke world ending world') {e : UsageError}
    (demand : Demand.ofWords words = .error e) :
    ending.exitCode.toNat = 1 ∧ Silent s world ending world' := by
  obtain ⟨rfl, rfl⟩ := h.of_ended (by rw [Beginning.ofWords, demand])
  exact ⟨rfl, rfl, .inl rfl⟩

theorem exitStatus_cases (outcomes : List Outcome) :
    exitStatus outcomes = 0 ∨ exitStatus outcomes = 5 := by
  rw [exitStatus]
  split
  · exact .inl rfl
  · exact .inr rfl

/-- The code of a report is the status of the outcomes. -/
theorem code_ofPool (a : Arguments) (s : Surroundings) (b : Batch Outcome ω)
    (pool : State Outcome ω) :
    (Ending.ofPool a s b pool).exitCode.toNat = exitStatus (b.results pool) := by
  rw [Ending.ofPool, exitStatus]
  dsimp only
  split <;> rfl

/-- What a run leads to: the code of the first check that fails and nothing else, or the report on
its batch. -/
theorem Leads.of_run (h : Leads words s invoke world ending world')
    (demand : Demand.ofWords words = .ok (.run a)) :
    (∃ c, Check.IsFirst words s a c ∧ ending.exitCode.toNat = c.code ∧
        Silent s world ending world') ∨
      (∀ c : Check, ¬ c.Fails words s a) ∧ Reports words s a invoke world ending world' := by
  rcases batch_cases words s a invoke with
    ⟨plan, l, ready, accepted, loads, place, passed⟩ | ⟨f, c, refused, first, code⟩
  · obtain ⟨events, pool, run, answered, rfl, rfl⟩ := h.of_batch (begins_batch demand ready)
    refine .inr ⟨passed, plan, l, events, pool, loads, place, run, answered, rfl, rfl,
      printed_report a s _ pool, ?_⟩
    rw [code_ofPool]
    exact ⟨Batch.exitStatus_eq_zero_iff.mpr, fun failed =>
      (exitStatus_cases _).resolve_left (mt Batch.exitStatus_eq_zero_iff.mp failed)⟩
  · obtain ⟨rfl, rfl⟩ := h.of_ended (begins_ended demand refused)
    exact .inl ⟨c, first, code, rfl, .inr rfl⟩

/-- What the exit code of a command line tells. -/
structure Tells (words : List String) (s : Surroundings) (invoke : Location → Invoker ω)
    (world : ω) (ending : Ending) (world' : ω) : Prop where
  /-- A word that asks for help and is reached is answered with nothing but help. -/
  help : ∀ word, Reached words word → isHelp word = true →
    ending.exitCode.toNat = 0 ∧ ending.output = usageText s.nameStart ∧ world' = world
  version : ∀ word, Reached words word → isVersion word = true →
    ending.exitCode.toNat = 0 ∧ ending.output = versionText ∧ world' = world
  /-- Without such a word there is something wrong with the arguments, or a run. -/
  other : (∀ word, Reached words word → isHelp word = false ∧ isVersion word = false) ↔
    (∃ e, Demand.ofWords words = .error e) ∨ ∃ a, Demand.ofWords words = .ok (.run a)
  arguments : ∀ e, Demand.ofWords words = .error e → ending.exitCode.toNat = 1
  /-- The first check that fails decides. -/
  check : ∀ a c, Demand.ofWords words = .ok (.run a) → Check.IsFirst words s a c →
    ending.exitCode.toNat = c.code
  /-- If no check fails, there is a report. -/
  run : ∀ a, Demand.ofWords words = .ok (.run a) → (∃ c, Check.IsFirst words s a c) ∨
    (∀ c : Check, ¬ c.Fails words s a) ∧ Reports words s a invoke world ending world'
  silent : ending.exitCode.toNat ∈ [1, 2, 3, 4] → Silent s world ending world'

theorem code_of_reports (h : Reports words s a invoke world ending world') :
    ending.exitCode.toNat = 0 ∨ ending.exitCode.toNat = 5 := by
  obtain ⟨plan, l, events, pool, -, -, -, -, -, -, -, passed, failed⟩ := h
  by_cases all : ∀ r ∈ (plan.batch (invoke l)).results pool, r.verdict = .pass
  · exact .inl (passed all)
  · exact .inr (failed all)

theorem Leads.silent (h : Leads words s invoke world ending world')
    (bad : ending.exitCode.toNat ∈ [1, 2, 3, 4]) : Silent s world ending world' := by
  cases demand : Demand.ofWords words with
  | error e => exact (h.of_fault demand).2
  | ok asked =>
    cases asked with
    | help =>
      rw [(h.of_help demand).1] at bad
      simp at bad
    | version =>
      rw [(h.of_version demand).1] at bad
      simp at bad
    | run a =>
      rcases h.of_run demand with ⟨c, -, -, silent⟩ | ⟨-, reports⟩
      · exact silent
      · rcases code_of_reports reports with code | code <;> simp [code] at bad

/-- **The exit code tells what happened.** Whatever the words, the files and the environment, and in
whatever order the workers and the driver move: help and the version are given exactly if a word
that asks for them is reached; then the first thing that is wrong decides the code, with the form of
the arguments first and the checks in their order behind it; as long as the code says that something
is wrong with what was asked for, no command was run and nothing was reported; and in any other run
there is a report, and the code tells whether everything passed. -/
theorem exit_tells (words : List String) (s : Surroundings) (invoke : Location → Invoker ω)
    (world : ω) :
    (∃ world', Leads words s invoke world (.ofWords words s invoke world) world') ∧
      ∀ ending world', Leads words s invoke world ending world' →
        Tells words s invoke world ending world' := by
  refine ⟨exists_leads words s invoke world, fun ending world' h => ?_⟩
  constructor
  · exact fun word reached asks => h.of_help (ofWords_eq_help_iff.mpr ⟨word, reached, asks⟩)
  · exact fun word reached asks => h.of_version (ofWords_eq_version_iff.mpr ⟨word, reached, asks⟩)
  · exact ofWords_eq_other_iff
  · exact fun e demand => (h.of_fault demand).1
  · intro a c demand first
    rcases h.of_run demand with ⟨c', first', code, -⟩ | ⟨passed, -⟩
    · exact first.unique first' ▸ code
    · exact absurd first.1 (passed c)
  · exact fun a demand => (h.of_run demand).imp_left fun ⟨c, first, _⟩ => ⟨c, first⟩
  · exact h.silent

end Leads

/-- A directory with a source of two commands. -/
def twoCommands : Surroundings where
  files := { entries := [(["smoke.txt"], .file (Text.encodeUtf8 "#:+: ls\n#:dev: pwd\n"))] }
  directory := []
  now := "today"

/-- Under the tag `dev` both commands are run and pass; with a filter that is nothing but a sign the
source is not even read. -/
theorem exit_tells_twoCommands :
    (Ending.ofWords ["smoke.txt", "dev"] twoCommands (fun _ => calmInvoker) ()).exitCode.toNat = 0 ∧
      Reports ["smoke.txt", "dev"] twoCommands { source := "smoke.txt", tag := "dev" }
        (fun _ => calmInvoker) ()
        (.ofWords ["smoke.txt", "dev"] twoCommands (fun _ => calmInvoker) ()) () ∧
      (Ending.ofWords ["smoke.txt", "dev", "=="] twoCommands
        (fun _ => calmInvoker) ()).exitCode.toNat = 2 ∧
      Silent twoCommands ()
        (.ofWords ["smoke.txt", "dev", "=="] twoCommands (fun _ => calmInvoker) ()) () := by
  obtain ⟨⟨_, leads⟩, tells⟩ :=
    exit_tells ["smoke.txt", "dev"] twoCommands (fun _ => calmInvoker) ()
  obtain ⟨⟨_, leads'⟩, tells'⟩ :=
    exit_tells ["smoke.txt", "dev", "=="] twoCommands (fun _ => calmInvoker) ()
  have passed : (Ending.ofWords ["smoke.txt", "dev"] twoCommands
    (fun _ => calmInvoker) ()).exitCode.toNat = 0 := rfl
  have refused : (Ending.ofWords ["smoke.txt", "dev", "=="] twoCommands
    (fun _ => calmInvoker) ()).exitCode.toNat = 2 := rfl
  refine ⟨passed, ?_, refused, (tells' _ _ leads').silent (by rw [refused]; decide)⟩
  rcases (tells _ _ leads).run _ rfl with ⟨c, first⟩ | ⟨-, reports⟩
  · -- no check has the code 0
    have code := (tells _ _ leads).check _ c rfl first
    rw [passed] at code
    cases c <;> cases code
  · exact reports

end SmokeTest.CommandLine
