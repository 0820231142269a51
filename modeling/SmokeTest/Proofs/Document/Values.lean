/-
What the variables of a document are worth.

* `Variable.Resolves` — the value that a variable has in a run: that of the fact it names, else its
  inline value, else the value it lists for the tag;
* `Setup.Decides` — the variable that decides what a name is set to;
* `Plan.value_ofDocument` — which listed value a plan reports, and when a variable really has it;
* `Plan.overrides_ofDocument` — what the probes of a plan set.

Design notes: the value that is reported and the values that are set come from two passes over the
variables. Both are said of the last variable with a property. The properties differ in the
variables that list a value for the tag but have another source.
-/
import SmokeTest.Proofs.Document.Listed
import SmokeTest.Proofs.Document.Tests
import SmokeTest.Proofs.Document.Variables

namespace SmokeTest

/-! ### The value of a variable -/

/-- The variable lists the value for the tag. -/
def Variable.Lists (v : Variable) (tag value : String) : Prop :=
  ∃ pairs ∈ v.byTag, ∃ key, Chosen tag pairs key value

/-- The variable takes the value from its list: it names no fact and has no inline value. -/
structure Variable.Takes (v : Variable) (tag value : String) : Prop where
  factless : v.fact = none
  plain : v.inline = none
  lists : v.Lists tag value

/-- The value that a fact has in a run. -/
inductive Fact.Shows (c : Context) (i : Invocation) : Fact → VariableValue → Prop
  | version : Shows c i .version (.fixed SmokeTest.version)
  | configFile : Shows c i .configFile (.fixed i.configFile)
  | commandLine : Shows c i .commandLine (.fixed i.commandLine)
  | timeout : Shows c i .timeout (.fixed (Text.decimal c.timeoutSeconds))
  | poolSize : Shows c i .poolSize (.fixed (Text.decimal c.poolSize))
  | id : Shows c i .id .id
  | os : Shows c i .os (.fixed osName)
  | tag : Shows c i .tag (.fixed c.tag)

/-- The value that a variable has in a run: that of the fact it names, else its inline value, else
the value that it lists for the tag. -/
inductive Variable.Resolves (v : Variable) (c : Context) (i : Invocation) : VariableValue → Prop
  | fact {f : Fact} {value : VariableValue} (named : v.fact = some f) (shows : f.Shows c i value) :
      Resolves v c i value
  | inline {text : String} (factless : v.fact = none) (given : v.inline = some text) :
      Resolves v c i (.fixed text)
  | listed {text : String} (takes : v.Takes c.tag text) : Resolves v c i (.fixed text)

variable {c : Context} {i : Invocation}

theorem Fact.shows_iff {f : Fact} {value : VariableValue} :
    f.Shows c i value ↔ f.value c i = value := by
  constructor
  · rintro (_ | _ | _ | _ | _ | _ | _ | _) <;> rfl
  · rintro rfl
    cases f <;> constructor

/-- What a variable lists for a tag, whether or not it takes its value from there. -/
def Variable.listed? (v : Variable) (tag : String) : Option String :=
  v.byTag.bind (tagValue? tag)

theorem Variable.listed?_eq_some_iff {v : Variable} (sorted : v.ListsSorted) {tag value : String} :
    v.listed? tag = some value ↔ v.Lists tag value := by
  rw [listed?, Option.bind_eq_some_iff, Lists]
  constructor
  · rintro ⟨pairs, mem, found⟩
    exact ⟨pairs, mem, (tagValue?_eq_some_iff (sorted pairs mem)).mp found⟩
  · rintro ⟨pairs, mem, chosen⟩
    exact ⟨pairs, mem, (tagValue?_eq_some_iff (sorted pairs mem)).mpr chosen⟩

/-- A variable lists one value for a tag. -/
theorem Variable.Lists.unique {v : Variable} (sorted : v.ListsSorted) {tag value other : String}
    (lists : v.Lists tag value) (lists' : v.Lists tag other) : value = other := by
  rw [← listed?_eq_some_iff sorted] at lists lists'
  exact Option.some.inj (lists.symm.trans lists')

theorem Variable.value?_eq_some_iff {v : Variable} (sorted : v.ListsSorted)
    {value : VariableValue} : v.value? c i = some value ↔ v.Resolves c i value := by
  have listed : v.byTag.bind (tagValue? c.tag) = v.listed? c.tag := rfl
  rw [value?]
  constructor
  · intro has
    split at has
    · next f named => exact .fact named (Fact.shows_iff.mpr (Option.some.inj has))
    · next text factless given =>
      cases has
      exact .inline factless given
    · next pairs factless plain lists =>
      obtain ⟨text, found, rfl⟩ := Option.map_eq_some_iff.mp has
      rw [lists, Option.bind_some] at listed
      exact .listed ⟨factless, plain, (listed?_eq_some_iff sorted).mp (listed ▸ found)⟩
    · cases has
  · intro resolves
    cases resolves with
    | fact named shows =>
      rw [named]
      exact congrArg some (Fact.shows_iff.mp shows)
    | inline factless given => rw [factless, given]
    | listed takes =>
      obtain ⟨factless, plain, lists⟩ := takes
      have found := (listed?_eq_some_iff sorted).mpr lists
      obtain ⟨pairs, lists, found⟩ := Option.bind_eq_some_iff.mp found
      rw [factless, plain, lists]
      exact congrArg (Option.map VariableValue.fixed) found

/-! ### The value that is reported -/

/-- The value reported of a setup: what the last variable that lists a value for the tag lists. -/
def Setup.Reports (s : Setup) (tag value : String) : Prop :=
  ∃ v, IsLast (fun v => ∃ value, v.Lists tag value) s.systemVariables v ∧ v.Lists tag value

/-- The value assigned in a setup: what the last variable that takes its value from its list
takes. -/
def Setup.Assigns (s : Setup) (tag value : String) : Prop :=
  ∃ v, IsLast (fun v => ∃ value, v.Takes tag value) s.systemVariables v ∧ v.Takes tag value

variable {s : Setup} {tag value : String}

theorem Setup.listedValue?_eq_some_iff (sorted : ∀ v ∈ s.systemVariables, v.ListsSorted) :
    s.listedValue? tag = some value ↔ s.Reports tag value := by
  have lists_iff : ∀ v ∈ s.systemVariables,
      (v.listed? tag).isSome = true ↔ ∃ value, v.Lists tag value := by
    intro v mem
    simp only [Option.isSome_iff_exists, Variable.listed?_eq_some_iff (sorted v mem)]
  rw [listedValue?]
  refine (foldl_eq_some_iff (Variable.listed? · tag) ?latest).trans (exists_congr fun v => ?_)
  case latest =>
    -- a variable that lists nothing for the tag keeps what is listed before it
    intro current v
    rw [Variable.listed?]
    cases v.byTag <;> rfl
  rw [isLast_congr lists_iff]
  exact and_congr_right fun last => Variable.listed?_eq_some_iff (sorted v last.mem)

/-- One value is assigned at most. -/
theorem Setup.Assigns.unique (sorted : ∀ v ∈ s.systemVariables, v.ListsSorted) {other : String}
    (assigns : s.Assigns tag value) (assigns' : s.Assigns tag other) : value = other := by
  obtain ⟨v, last, takes⟩ := assigns
  obtain ⟨v', last', takes'⟩ := assigns'
  obtain rfl := last.unique last'
  exact takes.lists.unique (sorted v last.mem) takes'.lists

/-- The value that is reported is the one assigned exactly if it is assigned where the last variable
to list a value has another source. -/
theorem Setup.reports_iff_assigns_iff (sorted : ∀ v ∈ s.systemVariables, v.ListsSorted) :
    (∀ value, s.Reports tag value ↔ s.Assigns tag value) ↔
      ∀ v value, IsLast (fun v => ∃ value, v.Lists tag value) s.systemVariables v →
        v.Lists tag value → v.fact ≠ none ∨ v.inline ≠ none → s.Assigns tag value := by
  constructor
  · exact fun agree v value last lists _ => (agree value).mp ⟨v, last, lists⟩
  · intro hidden
    have assigned : ∀ value, s.Reports tag value → s.Assigns tag value := by
      rintro value ⟨v, last, lists⟩
      by_cases other : v.fact ≠ none ∨ v.inline ≠ none
      · exact hidden v value last lists other
      · -- the last variable to list a value takes it, and no later one can take any
        rw [not_or, not_not, not_not] at other
        have takes : v.Takes tag value := ⟨other.1, other.2, lists⟩
        obtain ⟨front, back, whole, -, others⟩ := last
        refine ⟨v, ⟨front, back, whole, ⟨value, takes⟩, fun u mem ⟨w, takes⟩ => ?_⟩, takes⟩
        exact others u mem ⟨w, takes.lists⟩
    refine fun value => ⟨assigned value, fun assigns => ?_⟩
    -- the variable that takes the value lists it, so that something is reported
    obtain ⟨u, last, takes⟩ := id assigns
    obtain ⟨v, last_list⟩ :
        ∃ v, IsLast (fun v => ∃ value, v.Lists tag value) s.systemVariables v :=
      exists_isLast_iff.mpr ⟨u, last.mem, value, takes.lists⟩
    obtain ⟨reported, lists⟩ := last_list.holds
    have reports : s.Reports tag reported := ⟨v, last_list, lists⟩
    exact assigns.unique sorted (assigned reported reports) ▸ reports

/-! ### What the names are set to -/

/-- The variable decides what the name is set to: of the variables of this name that have a value in
the run it is the last one. -/
def Setup.Decides (s : Setup) (c : Context) (i : Invocation) (name : String) : Variable → Prop :=
  IsLast (fun v => v.name = name ∧ ∃ value, v.Resolves c i value) s.systemVariables

theorem Setup.deciding?_eq_some_iff (sorted : ∀ v ∈ s.systemVariables, v.ListsSorted)
    {name : String} {v : Variable} :
    s.deciding? c i name = some v ↔ s.Decides c i name v := by
  have decides_iff : ∀ v ∈ s.systemVariables, (v.name == name && (v.value? c i).isSome) = true ↔
      v.name = name ∧ ∃ value, v.Resolves c i value := by
    intro v mem
    simp only [Bool.and_eq_true, beq_iff_eq, Option.isSome_iff_exists,
      Variable.value?_eq_some_iff (sorted v mem)]
  rw [deciding?, find?_reverse_eq_some_iff, Decides, isLast_congr decides_iff]

/-- A name is set to the value of the variable that decides. -/
theorem Setup.get?_overrides_eq_some_iff (sorted : ∀ v ∈ s.systemVariables, v.ListsSorted)
    {id name text : String} :
    (s.overrides c i id).get? name = some text ↔
      ∃ v value, s.Decides c i name v ∧ v.Resolves c i value ∧ value.forId id = text := by
  simp only [get?_overrides, Option.bind_eq_some_iff, Option.map_eq_some_iff,
    deciding?_eq_some_iff sorted]
  refine exists_congr fun v => ?_
  constructor
  · rintro ⟨decides, value, has, shown⟩
    exact ⟨value, decides, (Variable.value?_eq_some_iff (sorted v decides.mem)).mp has, shown⟩
  · rintro ⟨value, decides, resolves, shown⟩
    exact ⟨decides, value, (Variable.value?_eq_some_iff (sorted v decides.mem)).mpr resolves, shown⟩

/-- Unless a variable shows the id, its value is the same for all tests. -/
theorem Variable.Resolves.forId {v : Variable} {value : VariableValue}
    (resolves : v.Resolves c i value) (other : v.fact ≠ some .id) (id id' : String) :
    value.forId id = value.forId id' := by
  cases resolves with
  | fact named shows =>
    cases shows with
    | id => exact absurd named other
    | version | configFile | commandLine | timeout | poolSize | os | tag => rfl
  | inline | listed => rfl

/-! ### The values in a plan -/

namespace Plan

variable {o : Options} {format : Format} {text : String} {plan : Plan}

/-- Every probe of a document sets what the setup sets for its id. -/
theorem overrides_of_ofDocument {d : Document} (read : Document.parse format text = .ok d)
    (loaded : ofDocument o i format text = .ok plan) :
    plan.context = d.setup.context o ∧
      ∀ p ∈ plan.probes, p.overrides = d.setup.overrides plan.context i p.id := by
  obtain ⟨d', read', planned⟩ := ofDocument_eq_ok_iff.mp loaded
  obtain rfl := Except.ok.inj (read.symm.trans read')
  obtain ⟨-, context, -⟩ := Document.plan_eq_ok_iff.mp planned
  refine ⟨context, fun p mem => ?_⟩
  obtain ⟨w, -, made⟩ := Document.exists_written planned mem
  obtain ⟨-, -, overrides⟩ := Written.probe?_eq_some_iff.mp made
  rw [overrides, context]
  rfl

/-- **The value that a plan reports.** A plan reports what the last variable that lists a value for
the tag lists. A variable that takes its value from its list has this value in the run. The reported
value is the one that is assigned, that is, the value of the last variable that takes it from its
list, exactly if it is also assigned where the last variable to list a value names a fact or has an
inline value. -/
theorem value_ofDocument (loaded : ofDocument o i format text = .ok plan) :
    ∃ d, Document.parse format text = .ok d ∧
      (∀ value, plan.context.value = some value ↔ d.setup.Reports o.tag value) ∧
      (∀ v ∈ d.setup.systemVariables, ∀ value, v.Takes o.tag value →
        v.value? plan.context i = some (.fixed value)) ∧
      ((∀ value, plan.context.value = some value ↔ d.setup.Assigns o.tag value) ↔
        ∀ v value, IsLast (fun v => ∃ value, v.Lists o.tag value) d.setup.systemVariables v →
          v.Lists o.tag value → v.fact ≠ none ∨ v.inline ≠ none →
          d.setup.Assigns o.tag value) := by
  obtain ⟨d, read, -⟩ := ofDocument_eq_ok_iff.mp loaded
  obtain ⟨context, -⟩ := overrides_of_ofDocument read loaded
  have sorted := Document.listsSorted_of_parse read
  have reported : ∀ value, plan.context.value = some value ↔ d.setup.Reports o.tag value := by
    intro value
    rw [context]
    exact Setup.listedValue?_eq_some_iff sorted
  refine ⟨d, read, reported, fun v mem value takes => ?_, ?_⟩
  · have tag : plan.context.tag = o.tag := congrArg Context.tag context
    exact (Variable.value?_eq_some_iff (sorted v mem)).mpr (.listed (tag ▸ takes))
  · simp only [reported]
    exact Setup.reports_iff_assigns_iff sorted

/-- **What the probes of a document set.** A probe sets the names of the variables that have a value
in the run, each to the value of the last such variable of that name, with its own id for a variable
that shows the id. All probes agree on a name unless the variable that decides shows the id. -/
theorem overrides_ofDocument (loaded : ofDocument o i format text = .ok plan) :
    ∃ d, Document.parse format text = .ok d ∧
      (∀ p ∈ plan.probes,
        Overrides.Sorted p.overrides.entries ∧
        (∀ name, name ∈ p.overrides.names ↔
          ∃ v ∈ d.setup.systemVariables, v.name = name ∧ ∃ value, v.Resolves plan.context i value) ∧
        ∀ name text, p.overrides.get? name = some text ↔
          ∃ v value, d.setup.Decides plan.context i name v ∧ v.Resolves plan.context i value ∧
            value.forId p.id = text) ∧
      ∀ name, (∀ v, d.setup.Decides plan.context i name v → v.fact ≠ some .id) →
        ∀ p ∈ plan.probes, ∀ q ∈ plan.probes, p.overrides.get? name = q.overrides.get? name := by
  obtain ⟨d, read, -⟩ := ofDocument_eq_ok_iff.mp loaded
  obtain ⟨-, overrides⟩ := overrides_of_ofDocument read loaded
  have sorted := Document.listsSorted_of_parse read
  have values : ∀ p ∈ plan.probes, ∀ name text, p.overrides.get? name = some text ↔
      ∃ v value, d.setup.Decides plan.context i name v ∧ v.Resolves plan.context i value ∧
        value.forId p.id = text := by
    intro p mem name text
    rw [overrides p mem]
    exact Setup.get?_overrides_eq_some_iff sorted
  refine ⟨d, read, fun p mem => ⟨?_, fun name => ?_, values p mem⟩, ?_⟩
  · exact p.overrides.sorted
  · rw [Overrides.mem_names_iff]
    constructor
    · rintro ⟨text, set⟩
      obtain ⟨v, value, decides, resolves, -⟩ := (values p mem name text).mp set
      exact ⟨v, decides.mem, decides.holds⟩
    · -- where some variable of the name has a value, the last one decides
      intro some_variable
      obtain ⟨v, decides⟩ := exists_isLast_iff.mpr some_variable
      obtain ⟨-, value, resolves⟩ := decides.holds
      exact ⟨_, (values p mem name _).mpr ⟨v, value, decides, resolves, rfl⟩⟩
  · intro name other p mem q mem'
    refine Option.ext fun text => ?_
    rw [values p mem, values q mem']
    refine exists_congr fun v => exists_congr fun value => ?_
    refine and_congr_right fun decides => and_congr_right fun resolves => ?_
    rw [resolves.forId (other v decides) p.id q.id]

/-! ### A document whose variables have several sources -/

/-- A text with a variable that lists two spellings of one tag, one that lists another tag, and one
that has an inline value besides its list. The variables are written as their fields in order. -/
def layeredText : String :=
  "\x7b\"setup\":\x7b\"system_variables\":[" ++
    "[\"URL\",null,null,\x7b\"dev\":\"//dev\",\"DEV\":\"//DEV\"\x7d]," ++
    "[\"URL\",null,null,\x7b\"prod\":\"//prod\"\x7d]," ++
    "[\"MODE\",null,\"fast\",\x7b\"dev\":\"slow\"\x7d],[\"ID\",\"ID\",null,null]]\x7d," ++
    "\"test\":\x7b\"a \":\x7b\"cmd\":\"x\",\"run\":\x7b\"always\":true\x7d\x7d," ++
    "\"b\":\x7b\"cmd\":\"y\",\"run\":\x7b\"always\":true\x7d\x7d\x7d\x7d"

def layeredSetup : Setup where
  systemVariables := [
    { name := "URL", byTag := some [("DEV", "//DEV"), ("dev", "//dev")] },
    { name := "URL", byTag := some [("prod", "//prod")] },
    { name := "MODE", inline := some "fast", byTag := some [("dev", "slow")] },
    { name := "ID", fact := some .id }]

def layeredDocument : Document where
  setup := layeredSetup
  tests := [("a ", constantTest "x"), ("b", constantTest "y")]

set_option maxRecDepth 4000 in
theorem parse_layeredText : Document.parse .json layeredText = .ok layeredDocument := by
  have read : Json.read? layeredText = some (.object [
      (some "setup", .object [(some "system_variables", .array [
        .array [.text "URL", .null, .null,
          .object [(some "dev", .text "//dev"), (some "DEV", .text "//DEV")]],
        .array [.text "URL", .null, .null, .object [(some "prod", .text "//prod")]],
        .array [.text "MODE", .null, .text "fast", .object [(some "dev", .text "slow")]],
        .array [.text "ID", .text "ID", .null, .null]])]),
      (some "test", .object [(some "a ", constantTest "x"), (some "b", constantTest "y")])]) := by
    refine Json.read?_of_chars String.toList_append ?_
    simp [Json.readValue?, Json.readMembers?, Json.readItems?, Json.readString?, Json.skipBlanks,
      Json.text, constantTest]
  exact Document.parse_json read rfl

/-- What is run of `layeredText` under the tag `Dev`. -/
def layeredPlan : Plan where
  context := { tag := "Dev", poolSize := 5, timeoutSeconds := 600, value := some "slow" }
  probes := [
    { id := "a", command := "x",
      overrides := .ofList [("ID", "a"), ("MODE", "fast"), ("URL", "//dev")] },
    { id := "b", command := "y",
      overrides := .ofList [("ID", "b"), ("MODE", "fast"), ("URL", "//dev")] }]

theorem ofDocument_layeredText :
    ofDocument { tag := { text := "Dev" } } {} .json layeredText = .ok layeredPlan := by
  rw [ofDocument, parse_layeredText]
  rfl

/-- Of the two spellings of the tag the first variable takes the greater one, and no other variable
takes a value from its list. -/
theorem assigns_layeredSetup : layeredSetup.Assigns "Dev" "//dev" := by
  refine ⟨_, ⟨[], _, rfl, ⟨_, ?takes⟩, ?others⟩, ?takes⟩
  case takes =>
    refine ⟨rfl, rfl, _, rfl, "dev", by simp, rfl, fun e mem _ => ?_⟩
    simp only [List.mem_cons, List.not_mem_nil, or_false] at mem
    rcases mem with rfl | rfl <;> decide
  case others =>
    rintro v mem ⟨value, factless, plain, pairs, listed, key, mem', same, -⟩
    simp only [List.mem_cons, List.not_mem_nil, or_false] at mem
    rcases mem with rfl | rfl | rfl
    · cases listed
      obtain rfl : key = "prod" := by simpa using congrArg Prod.fst (List.mem_singleton.mp mem')
      cases same
    · cases plain
    · cases factless

/-- Under the tag `Dev` the plan of `layeredText` reports `slow`, which is listed besides an inline
value. What is assigned is `//dev`. -/
theorem value_ofDocument_layeredText :
    ofDocument { tag := { text := "Dev" } } {} .json layeredText = .ok layeredPlan ∧
      layeredPlan.context.value = some "slow" ∧ layeredSetup.Reports "Dev" "slow" ∧
      layeredSetup.Assigns "Dev" "//dev" ∧ ¬ layeredSetup.Assigns "Dev" "slow" := by
  obtain ⟨d, read, reported, -⟩ := value_ofDocument ofDocument_layeredText
  obtain rfl : layeredDocument = d := Except.ok.inj (parse_layeredText.symm.trans read)
  have sorted := Document.listsSorted_of_parse read
  refine ⟨ofDocument_layeredText, rfl, (reported "slow").mp rfl, assigns_layeredSetup,
    fun slow => ?_⟩
  exact absurd (slow.unique sorted assigns_layeredSetup) (by decide)

/-- Under the tag `Dev` the probes of `layeredText` set the three names that have a value, `URL` to
what the first of its two variables lists for the tag, and `ID` to their own ids. -/
theorem overrides_ofDocument_layeredText :
    ofDocument { tag := { text := "Dev" } } {} .json layeredText = .ok layeredPlan ∧
      ∀ p ∈ layeredPlan.probes,
        p.overrides.names = ["ID", "MODE", "URL"] ∧
        (∃ v value, layeredSetup.Decides layeredPlan.context {} "URL" v ∧
          v.Resolves layeredPlan.context {} value ∧ value.forId p.id = "//dev") ∧
        ∃ v value, layeredSetup.Decides layeredPlan.context {} "ID" v ∧
          v.Resolves layeredPlan.context {} value ∧ value.forId p.id = p.id := by
  obtain ⟨d, read, about, -⟩ := overrides_ofDocument ofDocument_layeredText
  obtain rfl : layeredDocument = d := Except.ok.inj (parse_layeredText.symm.trans read)
  refine ⟨ofDocument_layeredText, fun p mem => ?_⟩
  obtain ⟨-, -, values⟩ := about p mem
  simp only [layeredPlan, List.mem_cons, List.not_mem_nil, or_false] at mem
  rcases mem with rfl | rfl
  · exact ⟨rfl, (values "URL" "//dev").mp rfl, (values "ID" "a").mp rfl⟩
  · exact ⟨rfl, (values "URL" "//dev").mp rfl, (values "ID" "b").mp rfl⟩

end Plan

end SmokeTest
