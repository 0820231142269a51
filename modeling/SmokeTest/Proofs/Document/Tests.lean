/-
The probes of a document.

* `Written` — a test as it is written, its name and its command, before any blanks are trimmed;
* `Document.written d tag` — the tests that are selected and have a command;
* `Document.accepted d o` — those of them that the filter lets pass;
* `probesOf_eq_ok_iff`, `probesOf_eq_error_iff` — when the tests make probes, and which test decides
  that they do not;
* `Plan.ofDocument_eq_ok_iff` — which texts have a plan, and which plan that is: one probe for each
  accepted test, in order.

Design notes: `probesOf` reads, selects, filters and trims test by test. Here these are four steps
over the whole list, so that what is said of one step does not mention the others.
-/
import Mathlib.Data.List.Basic
import Mathlib.Data.Option.Basic
import SmokeTest.Document.Plan
import SmokeTest.Proofs.Probe

namespace SmokeTest

/-- A test as it is written. -/
structure Written where
  name : String
  command : String
  deriving DecidableEq, Repr

/-- The probe that runs the test, with the variables that have the given values; none if the test
has no name. -/
def Written.probe? (w : Written) (values : List (String × VariableValue)) : Option Probe :=
  if empty : w.name.trimBlank = "" then none
  else
    some {
      id := w.name.trimBlank
      command := w.command.trimBlank
      overrides := .ofList (values.map fun (n, v) => (n, v.forId w.name.trimBlank))
      named := String.isEmpty_trimBlank empty
      trimmed := w.name.bare_trimBlank
      bare := w.command.bare_trimBlank }

/-- The test as it is written, if it is selected and has a command. -/
def Entry.written? (e : Entry) (tag name : String) : Option Written :=
  let command := e.command.getD ""
  if e.rules.directive.selects tag && !command.isAllBlank then some { name, command } else none

/-- The tests of a list that are selected and have a command. -/
def writtenTests (tag : String) (tests : List (String × Json)) : List Written :=
  tests.filterMap fun (name, v) => (Entry.ofJson? v).bind fun e => e.written? tag name

/-- Whether the filter lets a test pass, judged as it is written. -/
def Options.passes (o : Options) (w : Written) : Bool :=
  o.accepts w.name w.command

/-- The tests of a document that are selected and have a command. -/
def Document.written (d : Document) (tag : String) : List Written :=
  writtenTests tag d.tests

/-- The tests of a document that become probes. -/
def Document.accepted (d : Document) (o : Options) : List Written :=
  (d.written o.tag).filter o.passes

variable {o : Options} {values : List (String × VariableValue)}

theorem Written.probe?_eq_some_iff {w : Written} {p : Probe} :
    w.probe? values = some p ↔ p.id = w.name.trimBlank ∧ p.command = w.command.trimBlank ∧
      p.overrides = .ofList (values.map fun (n, v) => (n, v.forId p.id)) := by
  rw [probe?]
  constructor
  · intro made
    split at made
    · cases made
    · cases made
      exact ⟨rfl, rfl, rfl⟩
  · rintro ⟨id, command, overrides⟩
    rw [id] at overrides
    rw [dif_neg (id ▸ p.id_ne_empty)]
    exact congrArg some (Probe.ext id.symm command.symm overrides.symm)

theorem Written.probe?_eq_none_iff {w : Written} :
    w.probe? values = none ↔ w.name.trimBlank = "" := by
  rw [probe?]
  split
  · next empty => simp [empty]
  · next some_left => simp [some_left]

/-- The test that is written has the name of the entry and a command. -/
theorem Entry.of_written? {e : Entry} {tag name : String} {w : Written}
    (h : e.written? tag name = some w) : w.name = name ∧ w.command.trimBlank ≠ "" := by
  rw [written?] at h
  split at h
  · next selected =>
    cases h
    refine ⟨rfl, fun empty => ?_⟩
    have some_text := (Bool.and_eq_true_iff.mp selected).2
    rw [String.trimBlank_eq_empty_iff.mp empty] at some_text
    cases some_text
  · cases h

/-- The test that is written becomes a probe if the filter lets it pass and it has a name; without a
name it is an error. -/
theorem Entry.probe?_eq (e : Entry) (name : String) :
    e.probe? o values name =
      match (e.written? o.tag name).filter o.passes with
      | none => .ok none
      | some w =>
        match w.probe? values with
        | none => .error .emptyId
        | some p => .ok (some p) := by
  rw [probe?, written?]
  generalize e.command.getD "" = command
  cases e.rules.directive.selects o.tag with
  | false => simp
  | true =>
    cases command.isAllBlank with
    | true => simp
    | false =>
      cases passes : o.accepts name command with
      | false => simp [Option.filter_some_neg, Options.passes, passes]
      | true =>
        cases probed : Probe.ofCommand name command with
        | error fault =>
          obtain ⟨empty, rfl⟩ := Probe.ofCommand_eq_error_iff.mp probed
          have made : Written.probe? ⟨name, command⟩ values = none :=
            Written.probe?_eq_none_iff.mpr empty
          simp [Option.filter_some_pos, Options.passes, passes, made]
        | ok p =>
          obtain ⟨id, trimmed, bare⟩ := Probe.ofCommand_eq_ok_iff.mp probed
          have made : Written.probe? ⟨name, command⟩ values =
              some (p.withOverrides (values.map fun (n, v) => (n, v.forId p.id))) := by
            refine Written.probe?_eq_some_iff.mpr ⟨id, trimmed, ?_⟩
            rw [Probe.withOverrides, bare]
            rfl
          simp [Option.filter_some_pos, Options.passes, passes, made]

theorem Entry.probe?_eq_ok_iff {e : Entry} {name : String} {found : Option Probe} :
    e.probe? o values name = .ok found ↔
      ((e.written? o.tag name).filter o.passes).map (·.probe? values) = found.map some := by
  rw [probe?_eq]
  cases (e.written? o.tag name).filter o.passes with
  | none => cases found <;> simp
  | some w => cases made : w.probe? values <;> cases found <;> simp [made]

theorem Entry.probe?_eq_error_iff {e : Entry} {name : String} {fault : Error} :
    e.probe? o values name = .error fault ↔
      fault = .emptyId ∧
        ∃ w, (e.written? o.tag name).filter o.passes = some w ∧ w.name.trimBlank = "" := by
  rw [probe?_eq]
  cases (e.written? o.tag name).filter o.passes with
  | none => simp
  | some w =>
    have nameless : w.probe? values = none ↔ w.name.trimBlank = "" := Written.probe?_eq_none_iff
    simp only [Option.some.injEq, exists_eq_left', ← nameless]
    cases w.probe? values <;> simp [@eq_comm _ fault]

theorem probesOf_cons_eq_ok_iff {name : String} {v : Json} {rest : List (String × Json)}
    {probes : List Probe} :
    probesOf o values ((name, v) :: rest) = .ok probes ↔
      ∃ e found tail, Entry.ofJson? v = some e ∧ e.probe? o values name = .ok found ∧
        probesOf o values rest = .ok tail ∧ probes = found.toList ++ tail := by
  rw [probesOf]
  cases Entry.ofJson? v with
  | none => simp
  | some e =>
    cases own : e.probe? o values name with
    | error fault => simp [own]
    | ok found => cases probesOf o values rest <;> simp [own, @eq_comm _ probes]

theorem writtenTests_cons {name : String} {v : Json} {e : Entry}
    (read : Entry.ofJson? v = some e) (tag : String) (rest : List (String × Json)) :
    writtenTests tag ((name, v) :: rest) =
      (e.written? tag name).toList ++ writtenTests tag rest := by
  rw [writtenTests, List.filterMap_cons]
  dsimp only
  rw [read, Option.bind_some]
  cases e.written? tag name <;> rfl

theorem accepted_cons {name : String} {v : Json} {e : Entry} (read : Entry.ofJson? v = some e)
    (rest : List (String × Json)) :
    (writtenTests o.tag ((name, v) :: rest)).filter o.passes =
      ((e.written? o.tag name).filter o.passes).toList ++
        (writtenTests o.tag rest).filter o.passes := by
  rw [writtenTests_cons read, List.filter_append, Option.toList_filter]

/-- A list of tests makes probes if each of its tests can be read and each one that is accepted
makes one. -/
theorem probesOf_eq_ok_iff {tests : List (String × Json)} {probes : List Probe} :
    probesOf o values tests = .ok probes ↔
      (∀ t ∈ tests, (Entry.ofJson? t.2).isSome) ∧
        ((writtenTests o.tag tests).filter o.passes).map (·.probe? values) =
          probes.map some := by
  induction tests generalizing probes with
  | nil => cases probes <;> simp [probesOf, writtenTests]
  | cons first rest ih =>
    obtain ⟨name, v⟩ := first
    rw [probesOf_cons_eq_ok_iff]
    constructor
    · rintro ⟨e, found, tail, read, own, others, rfl⟩
      obtain ⟨readable, made⟩ := ih.mp others
      refine ⟨List.forall_mem_cons.mpr ⟨Option.isSome_iff_exists.mpr ⟨e, read⟩, readable⟩, ?_⟩
      rw [accepted_cons read, List.map_append, List.map_append, ← Option.toList_map,
        ← Option.toList_map, Entry.probe?_eq_ok_iff.mp own, made]
    · rintro ⟨readable, made⟩
      obtain ⟨first_readable, readable⟩ := List.forall_mem_cons.mp readable
      obtain ⟨e, read⟩ := Option.isSome_iff_exists.mp first_readable
      rw [accepted_cons read, List.map_append] at made
      obtain ⟨own, tail, rfl, own_made, others_made⟩ := List.map_eq_append_iff.mp made.symm
      obtain ⟨found, rfl, found_made⟩ : ∃ found : Option Probe, own = found.toList ∧
          ((e.written? o.tag name).filter o.passes).map (·.probe? values) = found.map some := by
        cases passing : (e.written? o.tag name).filter o.passes with
        | none =>
          rw [passing] at own_made
          exact ⟨none, List.map_eq_nil_iff.mp own_made, rfl⟩
        | some w =>
          rw [passing] at own_made
          obtain ⟨p, rfl, same⟩ := List.map_eq_singleton_iff.mp own_made
          exact ⟨some p, rfl, congrArg some same.symm⟩
      exact ⟨e, found, tail, read, Entry.probe?_eq_ok_iff.mpr found_made,
        ih.mpr ⟨readable, others_made.symm⟩, rfl⟩

/-- What one test comes to: an error, a probe, or nothing. -/
def probeOf? (o : Options) (values : List (String × VariableValue)) (t : String × Json) :
    Except Error (Option Probe) :=
  match Entry.ofJson? t.2 with
  | none => .error .badJson
  | some e => e.probe? o values t.1

theorem probesOf_cons_eq_error_iff {t : String × Json} {rest : List (String × Json)}
    {fault : Error} :
    probesOf o values (t :: rest) = .error fault ↔
      probeOf? o values t = .error fault ∨
        (∃ found, probeOf? o values t = .ok found) ∧ probesOf o values rest = .error fault := by
  obtain ⟨name, v⟩ := t
  rw [probesOf, probeOf?]
  cases Entry.ofJson? v with
  | none => simp
  | some e =>
    cases own : e.probe? o values name with
    | error other => simp [own]
    | ok found => cases probesOf o values rest <;> simp [own]

/-- The first test that comes to an error decides, whatever stands behind it. -/
theorem probesOf_eq_error_iff {tests : List (String × Json)} {fault : Error} :
    probesOf o values tests = .error fault ↔
      ∃ front t back, tests = front ++ t :: back ∧ probeOf? o values t = .error fault ∧
        ∀ u ∈ front, ∃ found, probeOf? o values u = .ok found := by
  induction tests with
  | nil => simp [probesOf]
  | cons first rest ih =>
    rw [probesOf_cons_eq_error_iff, ih]
    constructor
    · rintro (failed | ⟨fine, front, t, back, rfl, failed, others⟩)
      · exact ⟨[], first, rest, rfl, failed, nofun⟩
      · exact ⟨first :: front, t, back, rfl, failed, List.forall_mem_cons.mpr ⟨fine, others⟩⟩
    · rintro ⟨front, t, back, whole, failed, fine⟩
      rcases List.cons_eq_append_iff.mp whole with ⟨rfl, same⟩ | ⟨front, rfl, rfl⟩
      · obtain ⟨rfl, -⟩ := List.cons_eq_cons.mp same
        exact .inl failed
      · obtain ⟨own, others⟩ := List.forall_mem_cons.mp fine
        exact .inr ⟨own, front, t, back, rfl, failed, others⟩

/-- Selected tests stand in the order of the tests, under their names. -/
theorem names_writtenTests (tag : String) (tests : List (String × Json)) :
    ((writtenTests tag tests).map Written.name).Sublist (tests.map Prod.fst) := by
  induction tests with
  | nil => exact .slnil
  | cons first rest ih =>
    obtain ⟨name, v⟩ := first
    rw [writtenTests, List.filterMap_cons]
    split
    · exact ih.cons name
    · next w read =>
      obtain ⟨e, -, own⟩ := Option.bind_eq_some_iff.mp read
      rw [List.map_cons, (Entry.of_written? own).1]
      exact ih.cons_cons name

theorem command_of_mem_writtenTests {tag : String} {tests : List (String × Json)} {w : Written}
    (mem : w ∈ writtenTests tag tests) : w.command.trimBlank ≠ "" := by
  obtain ⟨t, -, read⟩ := List.mem_filterMap.mp mem
  obtain ⟨e, -, own⟩ := Option.bind_eq_some_iff.mp read
  exact (Entry.of_written? own).2

theorem Document.names_accepted (d : Document) (o : Options) :
    ((d.accepted o).map Written.name).Sublist (d.tests.map Prod.fst) :=
  (List.filter_sublist.map _).trans (names_writtenTests o.tag d.tests)

theorem Options.passes_of_unfiltered (unfiltered : o.filter = none) (w : Written) :
    o.passes w = true := by
  rw [passes, accepts, unfiltered]
  rfl

/-- Without a filter every test that is selected and has a command is accepted. -/
theorem Document.accepted_of_unfiltered (unfiltered : o.filter = none) (d : Document) :
    d.accepted o = d.written o.tag :=
  List.filter_eq_self.mpr fun w _ => Options.passes_of_unfiltered unfiltered w

theorem Document.plan_eq_ok_iff {d : Document} {i : Invocation} {plan : Plan} :
    d.plan o i = .ok plan ↔
      (∀ t ∈ d.tests, (Entry.ofJson? t.2).isSome) ∧ plan.context = d.setup.context o ∧
        (d.accepted o).map (·.probe? (d.setup.resolve (d.setup.context o) i)) =
          plan.probes.map some := by
  rw [Document.plan]
  constructor
  · intro planned
    split at planned
    · next probes probed =>
      cases planned
      obtain ⟨readable, made⟩ := probesOf_eq_ok_iff.mp probed
      exact ⟨readable, rfl, made⟩
    · cases planned
  · rintro ⟨readable, context, made⟩
    rw [probesOf_eq_ok_iff.mpr ⟨readable, made⟩, ← context]

/-- The ids are the names of the tests without the blanks around them. -/
theorem Document.ids_of_plan {d : Document} {i : Invocation} {plan : Plan}
    (planned : d.plan o i = .ok plan) :
    plan.probes.map Probe.id = (d.accepted o).map (·.name.trimBlank) := by
  obtain ⟨-, -, made⟩ := plan_eq_ok_iff.mp planned
  generalize d.setup.resolve (d.setup.context o) i = values at made
  have ids : ∀ w ∈ d.accepted o, (w.probe? values).map Probe.id = some w.name.trimBlank := by
    intro w mem
    obtain ⟨p, -, same⟩ := List.mem_map.mp (made ▸ List.mem_map_of_mem mem)
    rw [← same, Option.map_some, (Written.probe?_eq_some_iff.mp same.symm).1]
  refine (Option.some_injective String).list_map ?_
  calc (plan.probes.map Probe.id).map some
      = (plan.probes.map some).map (Option.map Probe.id) := by simp
    _ = (d.accepted o).map fun w => (w.probe? values).map Probe.id := by
        rw [← made, List.map_map]
        rfl
    _ = (d.accepted o).map fun w => some w.name.trimBlank := List.map_congr_left ids
    _ = ((d.accepted o).map (·.name.trimBlank)).map some := by simp

/-- Every probe of a plan is made by a test. -/
theorem Document.exists_written {d : Document} {i : Invocation} {plan : Plan}
    (planned : d.plan o i = .ok plan) {p : Probe} (mem : p ∈ plan.probes) :
    ∃ w ∈ d.accepted o, w.probe? (d.setup.resolve (d.setup.context o) i) = some p := by
  obtain ⟨-, -, made⟩ := plan_eq_ok_iff.mp planned
  rw [← List.mem_map, made]
  exact List.mem_map_of_mem mem

theorem Document.plan_eq_error_iff {d : Document} {i : Invocation} {fault : Error} :
    d.plan o i = .error fault ↔
      probesOf o (d.setup.resolve (d.setup.context o) i) d.tests = .error fault := by
  rw [Document.plan]
  cases probesOf o (d.setup.resolve (d.setup.context o) i) d.tests <;> simp

theorem Plan.ofDocument_eq_ok_iff {i : Invocation} {format : Format} {text : String} {plan : Plan} :
    ofDocument o i format text = .ok plan ↔
      ∃ d, Document.parse format text = .ok d ∧ d.plan o i = .ok plan := by
  rw [ofDocument]
  cases Document.parse format text <;> simp

/-! ### A document with blanks around a name and around a command -/

/-- The characters of a text are enough to read it. -/
theorem Json.read?_of_chars {text : String} {chars : List Char} {v : Json}
    (written : text.toList = chars)
    (read : readValue? (chars.length + 1) chars = some (v, [])) : read? text = some v := by
  subst written
  rw [read?, read]
  rfl

theorem Document.parse_json {text : String} {v : Json} {d : Document}
    (read : Json.read? text = some v) (described : ofJson? v = some d) :
    parse .json text = .ok d := by
  rw [parse]
  · rw [read, Option.bind_some, described]
  · intro same
    cases same

/-- A test that runs a command under every tag. -/
def constantTest (command : String) : Json :=
  .object [(some "cmd", .text command), (some "run", .object [(some "always", .bool true)])]

/-- A text with two tests and a variable that shows the id. -/
def paddedText : String :=
  "\x7b\"setup\":\x7b\"system_variables\":[\x7b\"name\":\"ID\",\"internal_value\":\"ID\"\x7d]\x7d," ++
    "\"test\":\x7b\" admin\":\x7b\"cmd\":\"./admin.sh\",\"run\":\x7b\"always\":true\x7d\x7d," ++
    "\"ping\":\x7b\"cmd\":\" curl x\",\"run\":\x7b\"always\":true\x7d\x7d\x7d\x7d"

def paddedDocument : Document where
  setup := { systemVariables := [{ name := "ID", fact := some .id }] }
  tests := [(" admin", constantTest "./admin.sh"), ("ping", constantTest " curl x")]

set_option maxRecDepth 4000 in
theorem parse_paddedText : Document.parse .json paddedText = .ok paddedDocument := by
  have read : Json.read? paddedText = some (.object [
      (some "setup", .object [(some "system_variables", .array [
        .object [(some "name", .text "ID"), (some "internal_value", .text "ID")]])]),
      (some "test", .object [(some " admin", constantTest "./admin.sh"),
        (some "ping", constantTest " curl x")])]) := by
    refine Json.read?_of_chars String.toList_append ?_
    simp [Json.readValue?, Json.readMembers?, Json.readItems?, Json.readString?, Json.skipBlanks,
      Json.text, constantTest]
  exact Document.parse_json read rfl

/-- What is run of `paddedText` under the tag `dev`. -/
def paddedPlan : Plan where
  context := { tag := "dev", poolSize := 5, timeoutSeconds := 600 }
  probes := [
    { id := "admin", command := "./admin.sh", overrides := .ofList [("ID", "admin")] },
    { id := "ping", command := "curl x", overrides := .ofList [("ID", "ping")] }]

theorem ofDocument_paddedText :
    Plan.ofDocument { tag := .dev } {} .json paddedText = .ok paddedPlan := by
  rw [Plan.ofDocument, parse_paddedText]
  rfl

end SmokeTest
