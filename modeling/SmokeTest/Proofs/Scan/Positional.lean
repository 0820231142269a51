/-
What a text source means, line by line.

The scan threads what it has collected through the lines. Here the same is said of the lines by
themselves: which of them contribute a probe, and what a probe owes to the lines above it.

* `Line.LastAssigned` — the last value that some lines assign to a tag;
* `ProbeOf` — the probe of one line among the lines of its source;
* `probes_ofLines` — a scan that succeeds collects exactly these probes and this value, and what
  follows a line never changes what was collected up to it.

Design notes: the fold is followed with `lastAssigned?` and `Line.probe`, which are computed from
the lines read so far. Only in the end is this turned into the statement by line numbers, which
needs that the numbers ascend.
-/
import Mathlib.Data.List.Forall2
import Mathlib.Data.List.Induction
import SmokeTest.Proofs.Overrides
import SmokeTest.Proofs.Probe
import SmokeTest.Proofs.Text.Numeral
import SmokeTest.Scan

namespace SmokeTest

/-! ### Lines by themselves -/

namespace Line

/-- The line assigns the value to the tag. -/
def Assigns (tag value : String) (line : Line) : Prop :=
  ∃ assigned, Directive.parse line.text = some (.assignment assigned value) ∧
    sameTag assigned tag = true

/-- Of the lines that assign something to the tag the last one assigns the value. -/
def LastAssigned (tag : String) (lines : List Line) (value : String) : Prop :=
  ∃ a ∈ lines, a.Assigns tag value ∧
    ∀ c ∈ lines, a.number < c.number → ∀ other, ¬ c.Assigns tag other

/-- The command of the line, without the blanks around it. -/
def command (line : Line) : String :=
  (Directive.commandOf line.text).trimBlank

/-- Whether the line has a marker that selects the tag, and a command. -/
def isSelected (tag : String) (line : Line) : Bool :=
  match Directive.parse line.text with
  | some (.marker token) => (Directive.marker token).selects tag && !line.command.isEmpty
  | _ => false

/-- The value that the line assigns to the tag, if it does. -/
def assigned? (tag : String) (line : Line) : Option String :=
  match Directive.parse line.text with
  | some (.assignment assigned value) => if sameTag assigned tag then some value else none
  | _ => none

theorem assigned?_eq_some_iff {tag value : String} {line : Line} :
    line.assigned? tag = some value ↔ line.Assigns tag value := by
  rw [assigned?, Assigns]
  split
  · next assigned v h =>
    rw [h]
    by_cases same : sameTag assigned tag = true
    · simp [same]
    · simp only [same, Bool.false_eq_true, if_false, reduceCtorEq, false_iff, not_exists, not_and]
      intro other eq
      cases eq
      exact same
  · next other =>
    simp only [reduceCtorEq, false_iff, not_exists, not_and]
    intro assigned h
    exact absurd h (other assigned value)

end Line

/-- The last value that the lines assign to the tag, if there is one. -/
def lastAssigned? (tag : String) (lines : List Line) : Option String :=
  (lines.filterMap (Line.assigned? tag)).getLast?

theorem lastAssigned?_concat (tag : String) (front : List Line) (line : Line) :
    lastAssigned? tag (front ++ [line]) = (line.assigned? tag).or (lastAssigned? tag front) := by
  rw [lastAssigned?, List.filterMap_append, lastAssigned?]
  cases h : line.assigned? tag with
  | none => simp [h]
  | some value => simp [h]

/-- Along ascending numbers the last assignment is the one with the largest number. -/
theorem lastAssigned?_eq_some_iff {tag value : String} {lines : List Line}
    (ascending : lines.Pairwise fun a b => a.number < b.number) :
    lastAssigned? tag lines = some value ↔ Line.LastAssigned tag lines value := by
  induction lines using List.reverseRecOn with
  | nil => simp [lastAssigned?, Line.LastAssigned]
  | append_singleton front line ih =>
    obtain ⟨before, _, below⟩ := List.pairwise_append.mp ascending
    have below : ∀ a ∈ front, a.number < line.number :=
      fun a mem => below a mem line (List.mem_singleton_self _)
    rw [lastAssigned?_concat]
    cases h : line.assigned? tag with
    | none =>
      -- a line that assigns nothing is not the last assignment, nor does it come after it
      have silent : ∀ v, ¬ line.Assigns tag v := by
        intro v assigns
        rw [← Line.assigned?_eq_some_iff, h] at assigns
        cases assigns
      rw [Option.none_or, ih before]
      constructor
      · rintro ⟨a, mem, assigns, last⟩
        refine ⟨a, List.mem_append_left _ mem, assigns, fun c mem' lt => ?_⟩
        rcases List.mem_append.mp mem' with mem' | mem'
        · exact last c mem' lt
        · exact List.mem_singleton.mp mem' ▸ silent
      · rintro ⟨a, mem, assigns, last⟩
        rcases List.mem_append.mp mem with mem | mem
        · exact ⟨a, mem, assigns, fun c mem' => last c (List.mem_append_left _ mem')⟩
        · exact absurd assigns (List.mem_singleton.mp mem ▸ silent value)
    | some v =>
      -- the last line assigns, and nothing is numbered above it
      have assigns := Line.assigned?_eq_some_iff.mp h
      rw [Option.some_or, Option.some.injEq]
      constructor
      · rintro rfl
        refine ⟨line, List.mem_append_right _ (List.mem_singleton_self _), assigns, ?_⟩
        intro c mem lt
        rcases List.mem_append.mp mem with mem | mem
        · exact absurd lt (Nat.lt_asymm (below c mem))
        · exact absurd lt (List.mem_singleton.mp mem ▸ Nat.lt_irrefl _)
      · rintro ⟨a, mem, assigns', last⟩
        rcases List.mem_append.mp mem with mem | mem
        · exact absurd assigns
            (last line (List.mem_append_right _ (List.mem_singleton_self _)) (below a mem) v)
        · rw [List.mem_singleton.mp mem, ← Line.assigned?_eq_some_iff, h] at assigns'
          exact Option.some.inj assigns'

/-! ### The probe of a line -/

/-- The probe that the line contributes when the value is in force. -/
def Line.probe (o : Options) (value : Option String) (line : Line) : Probe where
  id := Text.decimal line.number
  command := line.command
  overrides := Overrides.ofList (Scan.environment o line.number value)
  named := String.isEmpty_eq_false_iff.mpr (Text.decimal_ne_empty line.number)
  trimmed := (Text.trimBlank_decimal line.number).symm
  bare := String.bare_trimBlank _

/-- The probe belongs to the line: it has the number of the line for an id and the command of the
line, and it is given the tag, the platform and the number, and the value that was last assigned to
the tag above the line, if there is one, and nothing else. -/
structure ProbeOf (o : Options) (lines : List Line) (line : Line) (p : Probe) : Prop where
  id : p.id = Text.decimal line.number
  command : p.command = line.command
  sorted : Overrides.Sorted p.overrides.entries
  entries : ∃ value : Option String,
    (∀ v, value = some v ↔
      Line.LastAssigned o.tag (lines.filter fun a => a.number < line.number) v) ∧
    p.overrides.entries.Perm
      ([(o.names.tag, o.tag.text), (o.names.os, osName),
          (o.names.line, Text.decimal line.number)] ++
        value.toList.map fun v => (o.names.value, v))

/-- The four names that commands are given differ, whatever they begin with. -/
theorem nodup_environment (o : Options) (number : Nat) (value : Option String) :
    ((Scan.environment o number value).map Prod.fst).Nodup := by
  cases value <;>
    simp [Scan.environment, VariableNames.tag, VariableNames.value, VariableNames.os,
      VariableNames.line, String.append_right_inj]

/-- The variables of the probe of a line are those that its command is given. -/
theorem Line.get?_probe {o : Options} {value : Option String} {line : Line} {name v : String} :
    (line.probe o value).overrides.get? name = some v ↔
      (name, v) ∈ Scan.environment o line.number value := by
  rw [Overrides.get?_eq_some_iff]
  exact (Overrides.entries_ofList_perm (nodup_environment o line.number value)).mem_iff

/-- The probe that a line contributes belongs to it, if the value in force is the one that was last
assigned above the line. -/
theorem probeOf_probe {o : Options} {lines : List Line} {line : Line}
    (ascending : lines.Pairwise fun a b => a.number < b.number) :
    ProbeOf o lines line
      (line.probe o (lastAssigned? o.tag (lines.filter fun a => a.number < line.number))) := by
  refine ⟨rfl, rfl, Overrides.sorted _,
    lastAssigned? o.tag (lines.filter fun a => a.number < line.number), fun v => ?_, ?_⟩
  · exact lastAssigned?_eq_some_iff (ascending.filter _)
  · refine (Overrides.entries_ofList_perm (nodup_environment o line.number _)).trans ?_
    generalize lastAssigned? o.tag (lines.filter fun a => a.number < line.number) = value
    cases value <;> exact .refl _

/-- Lines below change nothing about the probe of a line. -/
theorem ProbeOf.concat {o : Options} {front : List Line} {line last : Line} {p : Probe}
    (h : ProbeOf o front line p) (below : line.number < last.number) :
    ProbeOf o (front ++ [last]) line p := by
  obtain ⟨value, carried, perm⟩ := h.entries
  refine ⟨h.id, h.command, h.sorted, value, fun v => ?_, perm⟩
  have out : ¬ last.number < line.number := Nat.lt_asymm below
  rw [carried v, List.filter_append]
  simp [out]

/-! ### The fold -/

namespace Scan

/-- A setting that is accepted sets one of the limits to a positive number, or nothing. -/
theorem set_cases {s s' : Scan} {name value : String} {number : Nat}
    (h : s.set name value number = .ok s') :
    s' = s ∨ ∃ n, positive? value = some n ∧
      (s' = { s with poolSize := n } ∨ s' = { s with timeoutSeconds := n }) := by
  rw [set] at h
  split at h
  · split at h
    · next n positive => cases h; exact .inr ⟨n, positive, .inl rfl⟩
    · cases h
  · split at h
    · split at h
      · next n positive => cases h; exact .inr ⟨n, positive, .inr rfl⟩
      · cases h
    · cases h; exact .inl rfl

/-- A line is read as nothing but a setting, an assignment or a marker. -/
theorem parse_cases {line : String} {d : Directive} (h : Directive.parse line = some d) :
    (∃ name value, d = .setting name value) ∨ (∃ tag value, d = .assignment tag value) ∨
      ∃ token, d = .marker token := by
  rw [Directive.parse, Directive.parseChars] at h
  split at h
  · cases h; exact .inl ⟨_, _, rfl⟩
  · split at h
    · cases h; exact .inr (.inl ⟨_, _, rfl⟩)
    · obtain ⟨token, _, rfl⟩ := Option.map_eq_some_iff.mp h
      exact .inr (.inr ⟨_, rfl⟩)

/-- A line that is numbered and has a command always makes a probe: the number is an id without
blanks, and the command has lost its own already. -/
theorem exists_ofCommand_line (line : Line) :
    ∃ p, Probe.ofCommand (Text.decimal line.number) line.command = .ok p ∧
      ∀ o value, p.withOverrides (environment o line.number value) = line.probe o value := by
  cases made : Probe.ofCommand (Text.decimal line.number) line.command with
  | error fault =>
    have empty := (Probe.ofCommand_eq_error_iff.mp made).1
    rw [Text.trimBlank_decimal] at empty
    exact absurd empty (Text.decimal_ne_empty line.number)
  | ok p =>
    obtain ⟨id, command, bare⟩ := Probe.ofCommand_eq_ok_iff.mp made
    refine ⟨p, rfl, fun o value => Probe.ext ?_ ?_ ?_⟩
    · exact id.trans (Text.trimBlank_decimal line.number)
    · exact command.trans (String.trimBlank_trimBlank _)
    · rw [Probe.withOverrides, bare]
      rfl

/-- The command of a selected line is added, if there is one and the filter lets it pass. -/
theorem add_eq (o : Options) (s : Scan) (line : Line) :
    s.add o line = .ok
      (if line.command.isEmpty || !o.accepts (Text.decimal line.number) line.command then s
      else { s with probes := s.probes ++ [line.probe o s.value] }) := by
  obtain ⟨p, made, probe⟩ := exists_ofCommand_line line
  rw [add, ← Line.command, made]
  split
  · rfl
  · dsimp only
    rw [probe]

/-- Without a filter every command of a selected line is added. -/
theorem add_unfiltered {o : Options} (unfiltered : o.filter = none) (s : Scan) (line : Line) :
    s.add o line = .ok
      (if line.command.isEmpty then s
      else { s with probes := s.probes ++ [line.probe o s.value] }) := by
  rw [add_eq, Options.accepts, unfiltered, Option.all_none, Bool.not_true, Bool.or_false]

/-- What a line does to the value and the probes, if no filter interferes. -/
theorem step_ok {o : Options} (unfiltered : o.filter = none) {s s' : Scan} {line : Line}
    (h : step o s line = .ok s') :
    s'.value = (line.assigned? o.tag).or s.value ∧
      s'.probes = s.probes ++ if line.isSelected o.tag then [line.probe o s.value] else [] := by
  cases parsed : Directive.parse line.text with
  | none =>
    rw [step, parsed] at h
    cases h
    simp [Line.assigned?, Line.isSelected, parsed]
  | some d =>
    rcases parse_cases parsed with ⟨name, value, rfl⟩ | ⟨assigned, value, rfl⟩ | ⟨token, rfl⟩
    · rw [step, parsed] at h
      rcases set_cases h with rfl | ⟨n, -, rfl | rfl⟩ <;>
        simp [Line.assigned?, Line.isSelected, parsed]
    · rw [step, parsed] at h
      cases h
      by_cases same : sameTag assigned o.tag = true <;>
        simp [Line.assigned?, Line.isSelected, Directive.carry, parsed, same]
    · rw [step, parsed] at h
      simp only [add_unfiltered unfiltered] at h
      cases selected : (Directive.marker token).selects o.tag <;>
        cases blank : line.command.isEmpty <;> simp only [selected, blank] at h <;> cases h <;>
          simp [Line.assigned?, Line.isSelected, parsed, selected, blank]

theorem steps_append (o : Options) (s : Scan) (front back : List Line) :
    steps o s (front ++ back) =
      match steps o s front with
      | .ok mid => steps o mid back
      | .error e => .error e := by
  induction front generalizing s with
  | nil => rfl
  | cons line rest ih =>
    rw [List.cons_append, steps, steps]
    cases step o s line with
    | ok mid => exact ih mid
    | error e => rfl

/-- A scan that succeeds has succeeded on every part of the lines from the first one on. -/
theorem steps_append_ok {o : Options} {s s' : Scan} {front back : List Line}
    (h : steps o s (front ++ back) = .ok s') :
    ∃ mid, steps o s front = .ok mid ∧ steps o mid back = .ok s' := by
  rw [steps_append] at h
  cases hmid : steps o s front with
  | ok mid => rw [hmid] at h; exact ⟨mid, rfl, h⟩
  | error e => rw [hmid] at h; cases h

theorem steps_concat_ok {o : Options} {s s' : Scan} {front : List Line} {line : Line}
    (h : steps o s (front ++ [line]) = .ok s') :
    ∃ mid, steps o s front = .ok mid ∧ step o mid line = .ok s' := by
  obtain ⟨mid, first, last⟩ := steps_append_ok h
  refine ⟨mid, first, ?_⟩
  rw [steps] at last
  split at last
  · next last' => cases last; exact last'
  · cases last

/-- What was collected up to a line stays at the front of what is collected in the end. -/
theorem probes_prefix {o : Options} (unfiltered : o.filter = none) {s s' : Scan}
    {lines : List Line} (h : steps o s lines = .ok s') : s.probes <+: s'.probes := by
  induction lines using List.reverseRecOn generalizing s' with
  | nil => cases h; exact List.prefix_rfl
  | append_singleton front line ih =>
    obtain ⟨mid, first, last⟩ := steps_concat_ok h
    rw [(step_ok unfiltered last).2]
    exact (ih first).trans (List.prefix_append _ _)

/-- The fold and the lines by themselves agree on every part of the lines from the first one on. -/
theorem collected_of_steps {o : Options} (unfiltered : o.filter = none) {lines : List Line}
    (ascending : lines.Pairwise fun a b => a.number < b.number) {s : Scan}
    (h : steps o (start o) lines = .ok s) :
    s.value = lastAssigned? o.tag lines ∧
      List.Forall₂ (ProbeOf o lines) (lines.filter (Line.isSelected o.tag)) s.probes := by
  induction lines using List.reverseRecOn generalizing s with
  | nil => cases h; exact ⟨rfl, .nil⟩
  | append_singleton front line ih =>
    obtain ⟨mid, first, last⟩ := steps_concat_ok h
    obtain ⟨before, _, below⟩ := List.pairwise_append.mp ascending
    have below : ∀ a ∈ front, a.number < line.number :=
      fun a mem => below a mem line (List.mem_singleton_self _)
    obtain ⟨value, probes⟩ := ih before first
    obtain ⟨value', probes'⟩ := step_ok unfiltered last
    refine ⟨by rw [value', value, lastAssigned?_concat], ?_⟩
    -- the probes of the lines above stay what they are
    have above : List.Forall₂ (ProbeOf o (front ++ [line]))
        (front.filter (Line.isSelected o.tag)) mid.probes := by
      have here : ∀ a ∈ front.filter (Line.isSelected o.tag), a.number < line.number :=
        fun a mem => below a (List.mem_filter.mp mem).1
      exact ((List.forall₂_and_left _ _).mpr ⟨here, probes⟩).imp fun _ _ h => h.2.concat h.1
    rw [probes', List.filter_append, List.filter_singleton]
    refine List.rel_append above ?_
    cases selected : line.isSelected o.tag with
    | false => exact .nil
    | true =>
      refine .cons ?_ .nil
      -- what lies above the last line is everything before it
      have upTo : (front ++ [line]).filter (fun a => a.number < line.number) = front := by
        rw [List.filter_append, List.filter_eq_self.mpr fun a mem => by simpa using below a mem]
        simp
      have here : ProbeOf o (front ++ [line]) line _ := probeOf_probe ascending
      rw [upTo, ← value] at here
      exact here

end Scan

/-! ### Sources -/

theorem numbers_ofText (text : String) :
    (Line.ofText text).map Line.number = List.range' 1 (Line.split text.toList).length := by
  rw [Line.ofText, List.map_map]
  exact List.zipIdx_map_snd 1 _

/-- The lines of a text are numbered in their order. -/
theorem ascending_ofText (text : String) :
    (Line.ofText text).Pairwise fun a b => a.number < b.number :=
  List.pairwise_map.mp (numbers_ofText text ▸ List.pairwise_lt_range')

namespace Plan

/-- A text that is scanned has been read line by line. -/
theorem ofLines_ok {o : Options} {lines : List Line} {plan : Plan}
    (h : ofLines o lines = .ok plan) :
    ∃ s, Scan.steps o (Scan.start o) lines = .ok s ∧ s.plan o = plan := by
  rw [ofLines] at h
  split at h
  · next s scanned =>
    cases h
    exact ⟨s, scanned, rfl⟩
  · cases h

/-- A text is refused where reading its lines fails. -/
theorem ofLines_error {o : Options} {lines : List Line} {fault : Error}
    (h : ofLines o lines = .error fault) : Scan.steps o (Scan.start o) lines = .error fault := by
  rw [ofLines] at h
  split at h
  · cases h
  · next refused =>
    cases h
    exact refused

/-- **What a source means, line by line.** If a text is scanned without a filter and the scan
succeeds, then the probes are those of the selected lines, one for each and in their order; the
value in the end is the last one assigned to the tag; and the scan of any part of the lines from the
first one on succeeds as well and collects the first ones of these probes. -/
theorem probes_ofLines {o : Options} (unfiltered : o.filter = none) {text : String} {plan : Plan}
    (scanned : ofLines o (Line.ofText text) = .ok plan) :
    List.Forall₂ (ProbeOf o (Line.ofText text))
        ((Line.ofText text).filter (Line.isSelected o.tag)) plan.probes ∧
      (∀ v, plan.context.value = some v ↔ Line.LastAssigned o.tag (Line.ofText text) v) ∧
      ∀ front back, Line.ofText text = front ++ back →
        ∃ part, ofLines o front = .ok part ∧ part.probes <+: plan.probes := by
  -- of the text only the order of the numbers matters
  have ascending := ascending_ofText text
  generalize Line.ofText text = lines at scanned ascending ⊢
  rw [ofLines] at scanned
  split at scanned
  · next s steps =>
    cases scanned
    obtain ⟨value, probes⟩ := Scan.collected_of_steps unfiltered ascending steps
    refine ⟨probes, fun v => ?_, fun front back cut => ?_⟩
    · rw [← lastAssigned?_eq_some_iff ascending, ← value]
      rfl
    · subst cut
      obtain ⟨mid, first, last⟩ := Scan.steps_append_ok steps
      refine ⟨mid.plan o, ?_, Scan.probes_prefix unfiltered last⟩
      rw [ofLines, first]
  · cases scanned

/-- A text with two values for the tag and one for another tag between two commands. -/
def carryText : String :=
  "#=dev=one\n#:dev: echo a\n#=sit=two\n#=DEV=three\n#:+: echo b\n"

/-- What is scanned from `carryText` for the tag `dev`. -/
def carryPlan : Plan where
  context := { tag := "dev", poolSize := 5, timeoutSeconds := 600, value := some "three" }
  probes := [
    { id := "2", command := "echo a"
      overrides := .ofList
        [("ST_LINE", "2"), ("ST_OS", "unix"), ("ST_TAG", "dev"), ("ST_VALUE", "one")] },
    { id := "5", command := "echo b"
      overrides := .ofList
        [("ST_LINE", "5"), ("ST_OS", "unix"), ("ST_TAG", "dev"), ("ST_VALUE", "three")] }]

theorem probes_ofLines_carryText :
    ofLines { tag := .dev } (Line.ofText carryText) = .ok carryPlan ∧
      List.Forall₂ (ProbeOf { tag := .dev } (Line.ofText carryText))
        ((Line.ofText carryText).filter (Line.isSelected "dev")) carryPlan.probes := by
  have scanned : ofLines { tag := .dev } (Line.ofText carryText) = .ok carryPlan := rfl
  exact ⟨scanned, (probes_ofLines rfl scanned).1⟩

end Plan

end SmokeTest
