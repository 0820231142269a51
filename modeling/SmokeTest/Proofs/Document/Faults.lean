/-
Which test decides that a document is refused, and what is run if none does.

* `Test.RuledBy v rule` — the rule of a test, by the names that have a value in it;
* `Test.Runs v tag command` — the test is selected and has a command;
* `Test.Faulty tag t fault` — the test cannot be read, or it runs without a name;
* `Test.Probed tag tests probes` — the probes are those of the tests that run;
* `Plan.faults_ofDocument` — the first faulty test decides the error, and without one every test
  that runs has its probe.

Design notes: a test is described by the values that it has under the names of its fields, so that
the order in which these are written does not occur. `Entry.ofJson?` is only asked whether a test
can be read.
-/
import SmokeTest.Proofs.Document.Readers
import SmokeTest.Proofs.Document.Tests

namespace SmokeTest

/-! ### Rules -/

/-- The rules have the value, which is not `null`, under the name. -/
def Rules.Gives (block : Json) (name : String) (w : Json) : Prop :=
  Json.HasField ["always", "if_tag_matches", "unless_tag_matches", "never"] name w block ∧
    w ≠ .null

namespace Test

/-- The test has the value, which is not `null`, under the name in its rules. -/
def HasRule (v : Json) (name : String) (w : Json) : Prop :=
  ∃ block, Json.HasField ["cmd", "run"] "run" block v ∧ Rules.Gives block name w

/-- The rule of a test: that of the first of the names `always`, `if_tag_matches` and
`unless_tag_matches` under which it has a value. A test with none of them never runs. -/
inductive RuledBy (v : Json) : Directive → Prop
  | always {w : Json} (given : HasRule v "always" w) : RuledBy v .always
  | ifTag {tags : List String} (noAlways : ∀ w, ¬ HasRule v "always" w)
      (given : HasRule v "if_tag_matches" (.array (tags.map .text))) : RuledBy v (.ifTagIn tags)
  | unlessTag {tags : List String} (noAlways : ∀ w, ¬ HasRule v "always" w)
      (noIfTag : ∀ w, ¬ HasRule v "if_tag_matches" w)
      (given : HasRule v "unless_tag_matches" (.array (tags.map .text))) :
      RuledBy v (.unlessTagIn tags)
  | never (noAlways : ∀ w, ¬ HasRule v "always" w)
      (noIfTag : ∀ w, ¬ HasRule v "if_tag_matches" w)
      (noUnlessTag : ∀ w, ¬ HasRule v "unless_tag_matches" w) : RuledBy v .never

/-- The test is selected for the tag and has the command, which is more than blanks. -/
structure Runs (v : Json) (tag command : String) : Prop where
  selected : ∃ rule, RuledBy v rule ∧ rule.selects tag = true
  given : Json.HasField ["cmd", "run"] "cmd" (.text command) v
  someText : command.isAllBlank = false

/-- What is wrong with a test: it cannot be read, selected or not, or it runs without a name. -/
inductive Faulty (tag : String) : String × Json → Error → Prop
  | malformed {name : String} {v : Json} (unread : Entry.ofJson? v = none) :
      Faulty tag (name, v) .badJson
  | nameless {name command : String} {v : Json} (read : Entry.ofJson? v ≠ none)
      (runs : Runs v tag command) (blank : name.isAllBlank = true) : Faulty tag (name, v) .emptyId

/-- The probes are those of the tests that run, in the order of the tests, each with the name and
the command of its test without the blanks around them. -/
inductive Probed (tag : String) : List (String × Json) → List Probe → Prop
  | nil : Probed tag [] []
  | runs {name command : String} {v : Json} {p : Probe} {tests : List (String × Json)}
      {probes : List Probe} (runs : Runs v tag command) (id : p.id = name.trimBlank)
      (trimmed : p.command = command.trimBlank) (others : Probed tag tests probes) :
      Probed tag ((name, v) :: tests) (p :: probes)
  | idle {t : String × Json} {tests : List (String × Json)} {probes : List Probe}
      (idle : ∀ command, ¬ Runs t.2 tag command) (others : Probed tag tests probes) :
      Probed tag (t :: tests) probes

end Test

/-- What is read as tags when the values that are no `null` are as given. -/
structure TagsFound (tags : Option (List String)) (has : Json → Prop) : Prop where
  some_iff : ∀ listed, tags = some listed ↔ has (.array (listed.map .text))
  none_iff : tags = none ↔ ∀ w, ¬ has w

/-- What is read as rules when the values under the names, none of them `null`, are as given. -/
structure Rules.Found (r : Rules) (has : String → Json → Prop) : Prop where
  always : r.always = true ↔ ∃ w, has "always" w
  ifTag : TagsFound r.ifTag (has "if_tag_matches")
  unlessTag : TagsFound r.unlessTag (has "unless_tag_matches")

theorem tagsFound_of_optionalField? {named : Bool} {field : Option Json} {has : Json → Prop}
    {tags : Option (List String)} (done : Json.optionalField? named Json.asTexts? field = some tags)
    (field_iff : ∀ w, field = some w ↔ has w) : TagsFound tags fun w => has w ∧ w ≠ .null := by
  constructor
  · intro listed
    rw [Json.eq_some_iff_of_optionalField? done]
    constructor
    · rintro ⟨w, here, given, read⟩
      rw [Json.asTexts?_eq_some_iff] at read
      exact read ▸ ⟨(field_iff w).mp here, given⟩
    · rintro ⟨here, given⟩
      exact ⟨_, (field_iff _).mpr here, given, Json.asTexts?_eq_some_iff.mpr rfl⟩
  · rw [Json.eq_none_iff_of_optionalField? done]
    simp [field_iff]

theorem Rules.found_of_ofJson? {block : Json} {r : Rules} (read : ofJson? block = some r) :
    r.Found (Gives block) := by
  obtain ⟨⟨named, fields⟩, found, read⟩ := Option.bind_eq_some_iff.mp read
  dsimp only at read
  split at read
  · next always ifTag unlessTag never =>
    obtain ⟨present, always_read, read⟩ := Option.bind_eq_some_iff.mp read
    obtain ⟨_, -, read⟩ := Option.bind_eq_some_iff.mp read
    obtain ⟨ifTags, if_read, read⟩ := Option.bind_eq_some_iff.mp read
    obtain ⟨unlessTags, unless_read, read⟩ := Option.bind_eq_some_iff.mp read
    cases read
    refine ⟨?_, tagsFound_of_optionalField? if_read
        (Json.getElem?_fields? found (by decide) (k := 1) rfl rfl),
      tagsFound_of_optionalField? unless_read
        (Json.getElem?_fields? found (by decide) (k := 2) rfl rfl)⟩
    have always_iff := Json.getElem?_fields? found (by decide) (k := 0) rfl rfl
    simp [Gives, Option.isSome_iff_exists, Json.eq_some_iff_of_optionalField? always_read,
      always_iff]
  · cases read

/-- The command and the rules of a test that can be read. -/
theorem Entry.fields_of_ofJson? {v : Json} {e : Entry} (read : ofJson? v = some e) :
    (∀ command, e.command = some command ↔
      Json.HasField ["cmd", "run"] "cmd" (.text command) v) ∧
    e.rules.Found (Test.HasRule v) := by
  obtain ⟨⟨named, fields⟩, found, read⟩ := Option.bind_eq_some_iff.mp read
  dsimp only at read
  split at read
  · next command rules =>
    obtain ⟨own, command_read, read⟩ := Option.bind_eq_some_iff.mp read
    obtain ⟨r, rules_read, read⟩ := Option.bind_eq_some_iff.mp read
    cases read
    have command_iff := Json.getElem?_fields? found (by decide) (k := 0) rfl rfl
    have rules_iff := Json.getElem?_fields? found (by decide) (k := 1) rfl rfl
    constructor
    · intro text
      have given : Json.text text ≠ .null := nofun
      simp [Json.eq_some_iff_of_optionalField? command_read, command_iff,
        Json.asText?_eq_some_iff, given]
    · cases rules with
      | none =>
        -- without rules none of the names has a value
        cases rules_read
        have nothing : ∀ name w, ¬ Test.HasRule v name w := by
          rintro name w ⟨block, here, -⟩
          exact absurd ((rules_iff block).mpr here) nofun
        refine ⟨by simp [nothing], ?_, ?_⟩ <;> exact ⟨by simp [nothing], by simp [nothing]⟩
      | some block =>
        have only : ∀ other, Json.HasField ["cmd", "run"] "run" other v ↔ block = other := by
          intro other
          rw [← rules_iff, Option.some.injEq]
        have same : Test.HasRule v = Rules.Gives block := by
          funext name w
          simp [Test.HasRule, only]
        rw [same]
        exact Rules.found_of_ofJson? rules_read
  · cases read

namespace Test

variable {v : Json} {e : Entry} {tag : String}

/-- The rule of a test that can be read is the one that counts for the program. -/
theorem ruledBy_iff (read : Entry.ofJson? v = some e) {rule : Directive} :
    RuledBy v rule ↔ rule = e.rules.directive := by
  obtain ⟨always_iff, ifTag, unlessTag⟩ := (Entry.fields_of_ofJson? read).2
  have always_false : (∀ w, ¬ HasRule v "always" w) ↔ e.rules.always = false := by
    rw [← Bool.not_eq_true, always_iff, not_exists]
  constructor
  · intro ruled
    cases ruled with
    | always given => rw [Rules.directive, if_pos (always_iff.mpr ⟨_, given⟩)]
    | ifTag noAlways given =>
      rw [Rules.directive, always_false.mp noAlways, (ifTag.some_iff _).mpr given]
      rfl
    | unlessTag noAlways noIfTag given =>
      rw [Rules.directive, always_false.mp noAlways, ifTag.none_iff.mpr noIfTag,
        (unlessTag.some_iff _).mpr given]
      rfl
    | never noAlways noIfTag noUnlessTag =>
      rw [Rules.directive, always_false.mp noAlways, ifTag.none_iff.mpr noIfTag,
        unlessTag.none_iff.mpr noUnlessTag]
      rfl
  · rintro rfl
    rw [Rules.directive]
    split
    · next always =>
      obtain ⟨w, given⟩ := always_iff.mp always
      exact .always given
    · next noAlways =>
      rw [Bool.not_eq_true, ← always_false] at noAlways
      split
      · next listed => exact .ifTag noAlways ((ifTag.some_iff _).mp listed)
      · next noIfTag listed =>
        exact .unlessTag noAlways (ifTag.none_iff.mp noIfTag) ((unlessTag.some_iff _).mp listed)
      · next noIfTag noUnlessTag =>
        exact .never noAlways (ifTag.none_iff.mp noIfTag) (unlessTag.none_iff.mp noUnlessTag)

/-- A test without a rule never runs. -/
theorem RuledBy.not_runs (ruled : RuledBy v .never) (command : String) : ¬ Runs v tag command := by
  rintro ⟨⟨rule, other, selects⟩, -, -⟩
  cases ruled with
  | never noAlways noIfTag noUnlessTag =>
    cases other with
    | always given => exact noAlways _ given
    | ifTag _ given => exact noIfTag _ given
    | unlessTag _ _ given => exact noUnlessTag _ given
    | never => cases selects

/-- The tests that run are those that are selected and have a command. -/
theorem runs_iff (read : Entry.ofJson? v = some e) (name : String) {command : String} :
    Runs v tag command ↔ e.written? tag name = some ⟨name, command⟩ := by
  have command_iff := (Entry.fields_of_ofJson? read).1
  rw [Entry.written?]
  constructor
  · rintro ⟨⟨rule, ruled, selects⟩, given, someText⟩
    obtain rfl := (ruledBy_iff read).mp ruled
    rw [(command_iff command).mpr given]
    simp [selects, someText]
  · intro written
    split at written
    · next selected =>
      obtain ⟨selects, someText⟩ := Bool.and_eq_true_iff.mp selected
      obtain ⟨-, same⟩ := Written.mk.inj (Option.some.inj written)
      -- an absent command would be blank
      cases given : e.command with
      | none =>
        rw [given] at someText
        cases someText
      | some text =>
        rw [given, Option.getD_some] at same someText
        subst same
        exact ⟨⟨_, (ruledBy_iff read).mpr rfl, selects⟩, (command_iff _).mp given,
          by simpa using someText⟩
    · cases written

variable {o : Options} (values : List (String × VariableValue)) {t : String × Json}

/-- Without a filter a test comes to an error exactly if it is faulty. -/
theorem faulty_iff (unfiltered : o.filter = none) {fault : Error} :
    Faulty o.tag t fault ↔ probeOf? o values t = .error fault := by
  obtain ⟨name, v⟩ := t
  have passing : ∀ written : Option Written, written.filter o.passes = written := by
    intro written
    cases written with
    | none => rfl
    | some w => exact Option.filter_some_pos (Options.passes_of_unfiltered unfiltered w)
  rw [probeOf?]
  constructor
  · intro faulty
    cases faulty with
    | malformed unread => rw [unread]
    | nameless read runs blank =>
      obtain ⟨e, read⟩ := Option.ne_none_iff_exists'.mp read
      rw [read]
      have written := (passing _).trans ((runs_iff read name).mp runs)
      exact Entry.probe?_eq_error_iff.mpr
        ⟨rfl, _, written, String.trimBlank_eq_empty_iff.mpr blank⟩
  · intro failed
    split at failed
    · next unread =>
      cases failed
      exact .malformed unread
    · next e read =>
      obtain ⟨rfl, w, written, empty⟩ := Entry.probe?_eq_error_iff.mp failed
      rw [passing] at written
      obtain ⟨rfl, -⟩ := Entry.of_written? written
      refine .nameless ?_ ((runs_iff read _).mpr written) (String.trimBlank_eq_empty_iff.mp empty)
      exact Option.ne_none_iff_exists'.mpr ⟨e, read⟩

/-- Without a filter a test that is not faulty comes to a probe or to nothing. -/
theorem not_faulty_iff (unfiltered : o.filter = none) :
    (∀ fault, ¬ Faulty o.tag t fault) ↔ ∃ found, probeOf? o values t = .ok found := by
  simp only [faulty_iff values unfiltered]
  cases probeOf? o values t <;> simp

/-- The tests that are selected and have a command make the probes. -/
theorem probed_writtenTests {tests : List (String × Json)}
    (readable : ∀ t ∈ tests, (Entry.ofJson? t.2).isSome) {probes : List Probe}
    (made : (writtenTests tag tests).map (·.probe? values) = probes.map some) :
    Probed tag tests probes := by
  induction tests generalizing probes with
  | nil =>
    cases probes with
    | nil => exact .nil
    | cons => cases made
  | cons first rest ih =>
    obtain ⟨name, v⟩ := first
    obtain ⟨own, others⟩ := List.forall_mem_cons.mp readable
    obtain ⟨e, read⟩ := Option.isSome_iff_exists.mp own
    rw [writtenTests_cons read] at made
    cases written : e.written? tag name with
    | none =>
      rw [written] at made
      refine .idle (fun command runs => ?_) (ih others made)
      rw [runs_iff read name, written] at runs
      cases runs
    | some w =>
      rw [written] at made
      obtain ⟨p, rest, rfl, own, made⟩ := List.map_eq_cons_iff.mp made.symm
      obtain ⟨id, command, -⟩ := Written.probe?_eq_some_iff.mp own.symm
      obtain ⟨rfl, -⟩ := Entry.of_written? written
      exact .runs ((runs_iff read _).mpr written) id command (ih others made.symm)

end Test

namespace Plan

variable {o : Options} {i : Invocation} {format : Format} {text : String} {d : Document}

/-- **Which test decides, and what is run if none does.** Without a filter, a document that can be
read is refused for the error of its first faulty test. If no test is faulty, it has a plan with the
probes of the tests that run, in order. The rule by which a test is selected is the one that counts
for the program, and a test without a rule never runs. -/
theorem faults_ofDocument (read : Document.parse format text = .ok d)
    (unfiltered : o.filter = none) :
    (∀ fault, ofDocument o i format text = .error fault ↔
      ∃ front t back, d.tests = front ++ t :: back ∧ Test.Faulty o.tag t fault ∧
        ∀ u ∈ front, ∀ other, ¬ Test.Faulty o.tag u other) ∧
    ((∀ t ∈ d.tests, ∀ fault, ¬ Test.Faulty o.tag t fault) →
      ∃ plan, ofDocument o i format text = .ok plan ∧
        Test.Probed o.tag d.tests plan.probes) ∧
    ∀ t ∈ d.tests,
      (∀ e, Entry.ofJson? t.2 = some e → ∀ rule, Test.RuledBy t.2 rule ↔ rule = e.rules.directive) ∧
      (Test.RuledBy t.2 .never → ∀ command, ¬ Test.Runs t.2 o.tag command) := by
  have loaded : ofDocument o i format text = d.plan o i := by rw [ofDocument, read]
  have refused_iff : ∀ fault, ofDocument o i format text = .error fault ↔
      ∃ front t back, d.tests = front ++ t :: back ∧ Test.Faulty o.tag t fault ∧
        ∀ u ∈ front, ∀ other, ¬ Test.Faulty o.tag u other := by
    intro fault
    rw [loaded, Document.plan_eq_error_iff, probesOf_eq_error_iff]
    simp only [← Test.faulty_iff _ unfiltered, ← Test.not_faulty_iff _ unfiltered]
  refine ⟨refused_iff, fun fine => ?_, fun t _ => ⟨fun e read _ => Test.ruledBy_iff read,
    Test.RuledBy.not_runs⟩⟩
  cases planned : ofDocument o i format text with
  | error fault =>
    obtain ⟨front, t, back, whole, faulty, -⟩ := (refused_iff fault).mp planned
    exact absurd faulty (fine t (whole ▸ List.mem_append_cons_self) fault)
  | ok plan =>
    obtain ⟨readable, -, made⟩ := Document.plan_eq_ok_iff.mp (loaded.symm.trans planned)
    rw [d.accepted_of_unfiltered unfiltered] at made
    exact ⟨plan, rfl, Test.probed_writtenTests _ readable made⟩

/-! ### A document with two faulty tests -/

/-- A text with a test whose first rule has no value, one without a name, and one that cannot be
read. -/
def brokenText : String :=
  "\x7b\"test\":\x7b\"a\":\x7b\"cmd\":\"x\",\"run\":\x7b\"unless_tag_matches\":[]," ++
    "\"if_tag_matches\":[\"dev\"],\"always\":null\x7d\x7d," ++
    "\" \":\x7b\"cmd\":\"y\",\"run\":\x7b\"if_tag_matches\":[\"dev\"]\x7d\x7d," ++
    "\"b\":\x7b\"cmd\":3\x7d\x7d\x7d"

/-- The first test of `brokenText`. -/
def layeredTest : Json :=
  .object [(some "cmd", .text "x"), (some "run", .object [(some "unless_tag_matches", .array []),
    (some "if_tag_matches", .array [.text "dev"]), (some "always", .null)])]

/-- The second test of `brokenText`. -/
def namelessTest : Json :=
  .object [(some "cmd", .text "y"),
    (some "run", .object [(some "if_tag_matches", .array [.text "dev"])])]

/-- The third test of `brokenText`. -/
def malformedTest : Json :=
  .object [(some "cmd", .number (.ofNat 3))]

def brokenDocument : Document :=
  { tests := [("a", layeredTest), (" ", namelessTest), ("b", malformedTest)] }

set_option maxRecDepth 4000 in
theorem parse_brokenText : Document.parse .json brokenText = .ok brokenDocument := by
  have read : Json.read? brokenText = some (.object [(some "test", .object [
      (some "a", layeredTest), (some " ", namelessTest), (some "b", malformedTest)])]) := by
    refine Json.read?_of_chars String.toList_append ?_
    simp [Json.readValue?, Json.readMembers?, Json.readItems?, Json.readString?, Json.skipBlanks,
      Json.readNumber?, Json.digitRun, Char.isDigit, Json.readFraction?, Json.readExponent?,
      Text.digitsValue?, Text.hexDigit?, Json.Number.ofNat, Json.text, layeredTest, namelessTest,
      malformedTest]
  exact Document.parse_json read rfl

/-- Under the tag `dev` the second test of `brokenText` decides, under the tag `prod`, for which it
is not selected, the third one. The first test follows its second rule. Nothing is wrong with
`paddedText`. -/
theorem faults_ofDocument_brokenText :
    (ofDocument { tag := .dev } {} .json brokenText = .error .emptyId ∧
      ∃ front t back, brokenDocument.tests = front ++ t :: back ∧
        Test.Faulty "dev" t .emptyId ∧ ∀ u ∈ front, ∀ other, ¬ Test.Faulty "dev" u other) ∧
    (ofDocument { tag := .prod } {} .json brokenText = .error .badJson ∧
      ∃ front t back, brokenDocument.tests = front ++ t :: back ∧
        Test.Faulty "prod" t .badJson ∧ ∀ u ∈ front, ∀ other, ¬ Test.Faulty "prod" u other) ∧
    Test.RuledBy layeredTest (.ifTagIn ["dev"]) ∧
    Test.Probed "dev" paddedDocument.tests paddedPlan.probes := by
  obtain ⟨refused_dev, -, rules⟩ :=
    faults_ofDocument (o := { tag := .dev }) (i := {}) parse_brokenText rfl
  obtain ⟨refused_prod, -, -⟩ :=
    faults_ofDocument (o := { tag := .prod }) (i := {}) parse_brokenText rfl
  have dev : ofDocument { tag := .dev } {} .json brokenText = .error .emptyId := by
    rw [ofDocument, parse_brokenText]
    rfl
  have prod : ofDocument { tag := .prod } {} .json brokenText = .error .badJson := by
    rw [ofDocument, parse_brokenText]
    rfl
  refine ⟨⟨dev, (refused_dev _).mp dev⟩, ⟨prod, (refused_prod _).mp prod⟩, ?_, ?_⟩
  · exact ((rules ("a", layeredTest) List.mem_cons_self).1 _ rfl _).mpr rfl
  · obtain ⟨-, planned, -⟩ :=
      faults_ofDocument (o := { tag := .dev }) (i := {}) parse_paddedText rfl
    have fine : ∀ t ∈ paddedDocument.tests, ∀ fault, ¬ Test.Faulty "dev" t fault := by
      intro t mem fault faulty
      simp only [paddedDocument, List.mem_cons, List.not_mem_nil, or_false] at mem
      rcases mem with rfl | rfl
      all_goals
        cases faulty with
        | malformed unread => cases unread
        | nameless _ _ blank => exact absurd blank (by decide)
    obtain ⟨plan, loaded, probed⟩ := planned fine
    obtain rfl : paddedPlan = plan := Except.ok.inj (ofDocument_paddedText.symm.trans loaded)
    exact probed

end Plan

end SmokeTest
