/-
Every text that is scanned gives a batch that is accepted.

* `Scan.step_cases` — what one line can do to what has been collected, filter or not;
* `Scan.Sound` — positive limits of at most 64 bits, and probes with commands and with the numbers
  of different lines for ids;
* `sound_of_steps` — this is kept by every line;
* `accepted_ofLines` — the plan of a text is accepted as a batch, and a scan only fails at a
  setting.

Design notes: that ids differ is not kept by itself. It is kept that they are the numerals of some
of the line numbers, in their order; different numbers have different numerals.
-/
import SmokeTest.Proofs.Pool.Acceptance
import SmokeTest.Proofs.Scan.Positional

namespace SmokeTest

namespace Scan

/-! ### Single lines -/

/-- A positive number of at most 64 bits. -/
def IsLimit (n : Nat) : Prop := 1 ≤ n ∧ n ≤ Text.wordMax

theorem isLimit_of_positive? {value : String} {n : Nat} (h : positive? value = some n) :
    IsLimit n := by
  rw [positive?, Option.filter_eq_some_iff] at h
  exact ⟨of_decide_eq_true h.2, Text.readDecimal?_le h.1⟩

theorem set_error {s : Scan} {name value : String} {number : Nat} {fault : Error}
    (h : s.set name value number = .error fault) : fault = .badSetting name value number := by
  rw [set] at h
  split at h
  · split at h <;> cases h
    rfl
  · split at h
    · split at h <;> cases h
      rfl
    · cases h

/-- What a line can do: set a limit, set the value, add the probe of the line, or nothing. -/
theorem step_cases {o : Options} {s s' : Scan} {line : Line} (h : step o s line = .ok s') :
    (∃ n, IsLimit n ∧ (s' = { s with poolSize := n } ∨ s' = { s with timeoutSeconds := n })) ∨
      (∃ value, s' = { s with value := value }) ∨
      (line.command ≠ "" ∧ s' = { s with probes := s.probes ++ [line.probe o s.value] }) ∨
      s' = s := by
  cases parsed : Directive.parse line.text with
  | none =>
    rw [step, parsed] at h
    cases h
    exact .inr (.inr (.inr rfl))
  | some d =>
    rcases parse_cases parsed with ⟨name, value, rfl⟩ | ⟨tag, value, rfl⟩ | ⟨token, rfl⟩ <;>
      rw [step, parsed] at h
    · rcases set_cases h with rfl | ⟨n, positive, set⟩
      · exact .inr (.inr (.inr rfl))
      · exact .inl ⟨n, isLimit_of_positive? positive, set⟩
    · cases h
      exact .inr (.inl ⟨_, rfl⟩)
    · simp only [add_eq] at h
      split at h
      · split at h
        · cases h
          exact .inr (.inr (.inr rfl))
        · next kept =>
          cases h
          refine .inr (.inr (.inl ⟨fun empty => kept ?_, rfl⟩))
          rw [empty]
          rfl
      · cases h
        exact .inr (.inr (.inr rfl))

/-- A line only fails if it is a setting. -/
theorem step_error {o : Options} {s : Scan} {line : Line} {fault : Error}
    (h : step o s line = .error fault) :
    ∃ name value, Directive.parse line.text = some (.setting name value) ∧
      fault = .badSetting name value line.number := by
  cases parsed : Directive.parse line.text with
  | none =>
    rw [step, parsed] at h
    cases h
  | some d =>
    rcases parse_cases parsed with ⟨name, value, rfl⟩ | ⟨tag, value, rfl⟩ | ⟨token, rfl⟩ <;>
      rw [step, parsed] at h
    · exact ⟨name, value, rfl, set_error h⟩
    · cases h
    · simp only [add_eq] at h
      split at h <;> cases h

/-- A scan only fails at a line that is a setting. -/
theorem steps_error {o : Options} {s : Scan} {lines : List Line} {fault : Error}
    (h : steps o s lines = .error fault) :
    ∃ line ∈ lines, ∃ name value, Directive.parse line.text = some (.setting name value) ∧
      fault = .badSetting name value line.number := by
  induction lines generalizing s with
  | nil => cases h
  | cons line rest ih =>
    rw [steps] at h
    split at h
    · obtain ⟨later, mem, setting⟩ := ih h
      exact ⟨later, List.mem_cons_of_mem _ mem, setting⟩
    · next failed =>
      cases h
      exact ⟨line, List.mem_cons_self, step_error failed⟩

/-- Every probe that a scan collects is the probe of one of the lines. -/
theorem exists_line_of_mem {o : Options} {lines : List Line} {s : Scan}
    (h : steps o (start o) lines = .ok s) :
    ∀ p ∈ s.probes, ∃ line ∈ lines, ∃ value, p = line.probe o value := by
  induction lines using List.reverseRecOn generalizing s with
  | nil =>
    cases h
    nofun
  | append_singleton front line ih =>
    obtain ⟨mid, first, last⟩ := steps_concat_ok h
    have before : ∀ p ∈ mid.probes, ∃ a ∈ front ++ [line], ∃ value, p = a.probe o value := by
      intro p mem
      obtain ⟨a, here, probe⟩ := ih first p mem
      exact ⟨a, List.mem_append_left _ here, probe⟩
    rcases step_cases last with ⟨n, -, rfl | rfl⟩ | ⟨value, rfl⟩ | ⟨-, rfl⟩ | rfl
    · exact before
    · exact before
    · exact before
    · -- the line adds a probe of its own
      exact List.forall_mem_append.mpr ⟨before, List.forall_mem_singleton.mpr
        ⟨line, List.mem_append_right _ (List.mem_singleton_self _), mid.value, rfl⟩⟩
    · exact before

/-! ### What is kept -/

/-- What has been collected from the lines: limits that a batch can have, and probes with commands,
which have the numbers of some of the lines for ids. -/
structure Sound (lines : List Line) (s : Scan) : Prop where
  poolSize : IsLimit s.poolSize
  timeoutSeconds : IsLimit s.timeoutSeconds
  commands : ∀ p ∈ s.probes, p.command ≠ "" ∧ p.command.trimBlank = p.command
  ids : ∃ numbers : List Nat, s.probes.map Probe.id = numbers.map Text.decimal ∧
    numbers.Sublist (lines.map Line.number)

/-- What is sound stays so when there is one more line that contributes nothing. -/
theorem Sound.ids_concat {lines : List Line} {s : Scan} (h : Sound lines s) (line : Line) :
    ∃ numbers : List Nat, s.probes.map Probe.id = numbers.map Text.decimal ∧
      numbers.Sublist ((lines ++ [line]).map Line.number) := by
  obtain ⟨numbers, ids, among⟩ := h.ids
  refine ⟨numbers, ids, ?_⟩
  rw [List.map_append]
  exact among.trans (List.sublist_append_left _ _)

theorem Sound.step {o : Options} {lines : List Line} {s s' : Scan} {line : Line}
    (h : Sound lines s) (step : Scan.step o s line = .ok s') : Sound (lines ++ [line]) s' := by
  rcases step_cases step with ⟨n, limit, rfl | rfl⟩ | ⟨value, rfl⟩ | ⟨some_command, rfl⟩ | rfl
  · exact ⟨limit, h.timeoutSeconds, h.commands, h.ids_concat line⟩
  · exact ⟨h.poolSize, limit, h.commands, h.ids_concat line⟩
  · exact ⟨h.poolSize, h.timeoutSeconds, h.commands, h.ids_concat line⟩
  · refine ⟨h.poolSize, h.timeoutSeconds, fun p mem => ?_, ?_⟩
    · rcases List.mem_append.mp mem with mem | mem
      · exact h.commands p mem
      · rw [List.mem_singleton.mp mem]
        exact ⟨some_command, String.trimBlank_trimBlank _⟩
    · -- the new id is the number of the last line
      obtain ⟨numbers, ids, among⟩ := h.ids
      refine ⟨numbers ++ [line.number], ?_, ?_⟩
      · rw [List.map_append, List.map_append, ids]
        rfl
      · rw [List.map_append]
        exact among.append (List.Sublist.refl _)
  · exact ⟨h.poolSize, h.timeoutSeconds, h.commands, h.ids_concat line⟩

/-- What a scan collects is sound if the limits that it starts with are. -/
theorem sound_of_steps {o : Options} (poolSize : IsLimit o.poolSize)
    (timeoutSeconds : IsLimit o.timeoutSeconds) {lines : List Line} {s : Scan}
    (h : steps o (start o) lines = .ok s) : Sound lines s := by
  induction lines using List.reverseRecOn generalizing s with
  | nil =>
    cases h
    exact ⟨poolSize, timeoutSeconds, nofun, [], rfl, List.nil_sublist _⟩
  | append_singleton front line ih =>
    obtain ⟨mid, first, last⟩ := steps_concat_ok h
    exact (ih first).step last

end Scan

/-! ### Sources -/

namespace Plan

/-- The plan has limits that a batch can have, its ids are not empty and tell the probes apart, and
every probe has a command without blanks around it. -/
structure Sound (plan : Plan) : Prop where
  poolSize : 1 ≤ plan.context.poolSize ∧ plan.context.poolSize ≤ Text.wordMax
  timeoutSeconds : 1 ≤ plan.context.timeoutSeconds ∧ plan.context.timeoutSeconds ≤ Text.wordMax
  named : ∀ p ∈ plan.probes, p.id ≠ ""
  distinct : (plan.probes.map Probe.id).Nodup
  commands : ∀ p ∈ plan.probes, p.command ≠ "" ∧ p.command.trimBlank = p.command

theorem Sound.accepted {plan : Plan} (h : plan.Sound) {ω : Type} (invoke : Invoker ω) :
    (plan.batch invoke).fault? = none := by
  rw [Pool.Batch.fault?_eq_none_iff, ids_batch]
  refine ⟨Nat.ne_of_gt h.poolSize.1, Nat.ne_of_gt h.timeoutSeconds.1, fun id mem => ?_, h.distinct⟩
  obtain ⟨p, here, rfl⟩ := List.mem_map.mp mem
  exact h.named p here

/-- The plan that is collected from the lines of a text is sound. -/
theorem sound_of_sound {o : Options} {text : String} {s : Scan}
    (h : Scan.Sound (Line.ofText text) s) : (s.plan o).Sound := by
  obtain ⟨numbers, ids, among⟩ := h.ids
  refine ⟨h.poolSize, h.timeoutSeconds, fun p mem => ?_, ?_, h.commands⟩
  · have id : p.id ∈ numbers.map Text.decimal := ids ▸ List.mem_map_of_mem mem
    obtain ⟨n, -, numeral⟩ := List.mem_map.mp id
    exact numeral ▸ Text.decimal_ne_empty n
  · -- the lines are numbered in their order, so no number is there twice
    have ascending := List.pairwise_map.mpr (ascending_ofText text)
    have nodup : numbers.Nodup := among.nodup (ascending.imp Nat.ne_of_lt)
    have distinct : (numbers.map Text.decimal).Nodup := nodup.map Text.decimal_injective
    exact ids ▸ distinct

/-- **Every text that is scanned gives a batch that is accepted.** Whatever the text, the tag, the
names and the filter, as long as the limits that count without a setting are positive: if the scan
succeeds, then the limits of the plan are positive numbers of at most 64 bits, its ids are not empty
and differ, its commands are not empty and have no blanks around them, and its batch answers. If the
scan fails, then because of the value of a setting. -/
theorem accepted_ofLines {o : Options}
    (poolSize : 1 ≤ o.poolSize ∧ o.poolSize ≤ Text.wordMax)
    (timeoutSeconds : 1 ≤ o.timeoutSeconds ∧ o.timeoutSeconds ≤ Text.wordMax) (text : String) :
    (∀ plan, ofLines o (Line.ofText text) = .ok plan → plan.Sound ∧
      ∀ {ω : Type} (invoke : Invoker ω) (world : ω),
        ∃ outcomes, (plan.batch invoke).run world = .ok outcomes) ∧
      ∀ fault, ofLines o (Line.ofText text) = .error fault →
        ∃ line ∈ Line.ofText text, ∃ name value,
          Directive.parse line.text = some (.setting name value) ∧
          fault = .badSetting name value line.number := by
  constructor
  · intro plan scanned
    rw [ofLines] at scanned
    split at scanned
    · next s steps =>
      cases scanned
      have sound : (s.plan o).Sound :=
        sound_of_sound (Scan.sound_of_steps poolSize timeoutSeconds steps)
      exact ⟨sound, fun invoke world =>
        Pool.Batch.exists_run_eq_ok_iff.mpr (sound.accepted invoke)⟩
    · cases scanned
  · intro fault failed
    rw [ofLines] at failed
    split at failed
    · cases failed
    · next steps =>
      cases failed
      exact Scan.steps_error steps

/-- A text with a limit, two commands that the filter lets pass and one that it does not. -/
def limitedText : String :=
  "#@timeout_seconds@ +20 \n#:+: echo a\n#:+: ls\r\n#:dev:\t echo b \n"

/-- What is scanned from `limitedText` for the tag `dev`. -/
def limitedPlan : Plan where
  context := { tag := "dev", poolSize := 5, timeoutSeconds := 20 }
  probes := [
    { id := "2", command := "echo a"
      overrides := .ofList [("ST_LINE", "2"), ("ST_OS", "unix"), ("ST_TAG", "dev")] },
    { id := "4", command := "echo b"
      overrides := .ofList [("ST_LINE", "4"), ("ST_OS", "unix"), ("ST_TAG", "dev")] }]

/-- A run for the tag `dev` that is limited to commands with an `echo`. -/
def echoOptions : Options := { tag := .dev, filter := some (.contains "echo") }

theorem accepted_ofLines_limitedText :
    ofLines echoOptions (Line.ofText limitedText) = .ok limitedPlan ∧ limitedPlan.Sound ∧
      (∃ outcomes, (limitedPlan.batch calmInvoker).run () = .ok outcomes) ∧
      ofLines echoOptions (Line.ofText "#@TIMEOUT_SECONDS@0") =
        .error (.badSetting "TIMEOUT_SECONDS" "0" 1) ∧
      ∃ line ∈ Line.ofText "#@TIMEOUT_SECONDS@0", ∃ name value,
        Directive.parse line.text = some (.setting name value) ∧
        Error.badSetting "TIMEOUT_SECONDS" "0" 1 = .badSetting name value line.number := by
  have scanned : ofLines echoOptions (Line.ofText limitedText) = .ok limitedPlan := rfl
  have failed : ofLines echoOptions (Line.ofText "#@TIMEOUT_SECONDS@0") =
      .error (.badSetting "TIMEOUT_SECONDS" "0" 1) := rfl
  have limits : (1 ≤ echoOptions.poolSize ∧ echoOptions.poolSize ≤ Text.wordMax) ∧
      1 ≤ echoOptions.timeoutSeconds ∧ echoOptions.timeoutSeconds ≤ Text.wordMax := by decide
  obtain ⟨sound, answers⟩ := (accepted_ofLines limits.1 limits.2 limitedText).1 _ scanned
  exact ⟨scanned, sound, answers calmInvoker (), failed,
    (accepted_ofLines limits.1 limits.2 _).2 _ failed⟩

end Plan

end SmokeTest
