/-
What the settings of a text amount to.

* `Limit` — the limits of a run that a setting can set;
* `Line.Sets`, `Line.IsFaulty` — a line that sets a limit, and one whose value no limit can have;
* `Scan.set_eq`, `Scan.limit_of_step`, `Scan.limit_of_step_unset` — what one setting does;
* `Scan.steps_faulty`, `Scan.exists_steps_ok`, `Scan.limit_of_steps` — what becomes of a scan;
* `Plan.limits_ofLines` — a scan fails at the first faulty line, and otherwise the last setting of a
  limit counts, or the option if there is none.

Design notes: the two limits differ in their names and in their places only, so everything is said
once of a `Limit`.
-/
import SmokeTest.Proofs.Scan.Positional

namespace SmokeTest

/-! ### Limits -/

/-- The limits of a run that a setting can set. -/
inductive Limit
  | poolSize
  | timeoutSeconds

namespace Limit

/-- How settings name the limit, in capitals. -/
def name : Limit → String
  | poolSize => "THREAD_POOL_SIZE"
  | timeoutSeconds => "TIMEOUT_SECONDS"

/-- The limit that counts without a setting. -/
def ofOptions (o : Options) : Limit → Nat
  | poolSize => o.poolSize
  | timeoutSeconds => o.timeoutSeconds

/-- The limit as it has been collected. -/
def ofScan (s : Scan) : Limit → Nat
  | poolSize => s.poolSize
  | timeoutSeconds => s.timeoutSeconds

/-- The limit that a run is given. -/
def ofContext (c : Context) : Limit → Nat
  | poolSize => c.poolSize
  | timeoutSeconds => c.timeoutSeconds

/-- The limit that is meant by a name, in whatever case it is written. -/
def ofName? (written : String) : Option Limit :=
  let known := String.ofList (Text.upper written.toList)
  if known = poolSize.name then some poolSize
  else if known = timeoutSeconds.name then some timeoutSeconds
  else none

/-- Puts a number in the place of a limit. -/
def put (s : Scan) (n : Nat) : Limit → Scan
  | poolSize => { s with poolSize := n }
  | timeoutSeconds => { s with timeoutSeconds := n }

theorem ofName?_eq_some_iff {written : String} {limit : Limit} :
    ofName? written = some limit ↔ String.ofList (Text.upper written.toList) = limit.name := by
  rw [ofName?]
  generalize String.ofList (Text.upper written.toList) = known
  have differ : poolSize.name ≠ timeoutSeconds.name := by decide
  cases limit with
  | poolSize =>
    by_cases first : known = poolSize.name
    · simp [first]
    · by_cases second : known = timeoutSeconds.name <;> simp [first, second, differ.symm]
  | timeoutSeconds =>
    by_cases first : known = poolSize.name
    · simp [first, differ]
    · by_cases second : known = timeoutSeconds.name <;> simp [first, second, differ.symm]

theorem ofScan_put (s : Scan) (n : Nat) (limit : Limit) : limit.ofScan (limit.put s n) = n := by
  cases limit <;> rfl

/-- The other limit stays what it is. -/
theorem ofScan_put_of_ne {limit other : Limit} (ne : other ≠ limit) (s : Scan) (n : Nat) :
    limit.ofScan (other.put s n) = limit.ofScan s := by
  cases limit <;> cases other <;> first | rfl | exact absurd rfl ne

end Limit

/-- The value, without the blanks around it, writes the number, and a limit can have it: it is
positive and has at most 64 bits. -/
def IsAmount (value : String) (n : Nat) : Prop :=
  Text.Denotes (Text.trim value.toList) n ∧ 1 ≤ n ∧ n ≤ Text.wordMax

theorem positive?_eq_some_iff {value : String} {n : Nat} :
    Scan.positive? value = some n ↔ IsAmount value n := by
  rw [Scan.positive?, Option.filter_eq_some_iff, decide_eq_true_iff,
    Text.readDecimal?_eq_some_iff, IsAmount]
  constructor
  · rintro ⟨⟨denotes, below⟩, positive⟩
    exact ⟨denotes, positive, below⟩
  · rintro ⟨denotes, positive, below⟩
    exact ⟨⟨denotes, below⟩, positive⟩

theorem IsAmount.unique {value : String} {m n : Nat} (h : IsAmount value m)
    (h' : IsAmount value n) : m = n :=
  h.1.unique h'.1

namespace Line

/-- The line is a setting of the limit, with the name and the value as they are written. -/
def Sets (limit : Limit) (name value : String) (line : Line) : Prop :=
  Directive.parse line.text = some (.setting name value) ∧
    String.ofList (Text.upper name.toList) = limit.name

instance (limit : Limit) (name value : String) (line : Line) :
    Decidable (line.Sets limit name value) :=
  inferInstanceAs (Decidable (_ ∧ _))

/-- The line is a setting of a limit, with a value that no limit can have. -/
def IsFaulty (name value : String) (line : Line) : Prop :=
  (∃ limit, line.Sets limit name value) ∧ ∀ n, ¬ IsAmount value n

/-- A line sets one limit, under one name and to one value. -/
theorem Sets.unique {line : Line} {limit limit' : Limit} {name name' value value' : String}
    (h : line.Sets limit name value) (h' : line.Sets limit' name' value') :
    limit = limit' ∧ name = name' ∧ value = value' := by
  cases h.1.symm.trans h'.1
  have meant := Limit.ofName?_eq_some_iff.mpr h.2
  have meant' := Limit.ofName?_eq_some_iff.mpr h'.2
  exact ⟨Option.some.inj (meant.symm.trans meant'), rfl, rfl⟩

end Line

/-! ### Single lines -/

namespace Scan

/-- A setting sets the limit that it names, if it names one and its value is a number that a limit
can have. -/
theorem set_eq (s : Scan) (name value : String) (number : Nat) :
    s.set name value number =
      match Limit.ofName? name, positive? value with
      | none, _ => .ok s
      | some limit, some n => .ok (limit.put s n)
      | some _, none => .error (.badSetting name value number) := by
  rw [set]
  cases meant : Limit.ofName? name with
  | none =>
    have other : ∀ limit : Limit, String.ofList (Text.upper name.toList) ≠ limit.name := by
      intro limit named
      rw [Limit.ofName?_eq_some_iff.mpr named] at meant
      cases meant
    have noPoolSize : ¬ String.ofList (Text.upper name.toList) = "THREAD_POOL_SIZE" :=
      other .poolSize
    have noTimeout : ¬ String.ofList (Text.upper name.toList) = "TIMEOUT_SECONDS" :=
      other .timeoutSeconds
    simp only [if_neg noPoolSize, if_neg noTimeout]
  | some limit =>
    -- the two limits are told apart by the tests of their names, one after the other
    have named := Limit.ofName?_eq_some_iff.mp meant
    cases limit with
    | poolSize =>
      simp only [named, Limit.name, if_true]
      cases positive? value <;> rfl
    | timeoutSeconds =>
      simp only [named, Limit.name, String.reduceEq, if_true, if_false]
      cases positive? value <;> rfl

variable {o : Options} {s s' : Scan} {line : Line} {limit : Limit} {name value : String} {n : Nat}

theorem step_setting (parsed : Directive.parse line.text = some (.setting name value)) :
    step o s line = s.set name value line.number := by
  rw [step, parsed]

/-- A line that sets a limit to a number that it can have puts this number in its place. -/
theorem step_put (sets : line.Sets limit name value) (amount : IsAmount value n) :
    step o s line = .ok (limit.put s n) := by
  rw [step_setting sets.1, set_eq, Limit.ofName?_eq_some_iff.mpr sets.2,
    positive?_eq_some_iff.mpr amount]

/-- A faulty line fails, and names itself and what it has written. -/
theorem step_faulty (faulty : line.IsFaulty name value) :
    step o s line = .error (.badSetting name value line.number) := by
  obtain ⟨⟨limit, sets⟩, noAmount⟩ := faulty
  have refused : positive? value = none := by
    rw [Option.eq_none_iff_forall_ne_some]
    exact fun n read => noAmount n (positive?_eq_some_iff.mp read)
  rw [step_setting sets.1, set_eq, Limit.ofName?_eq_some_iff.mpr sets.2, refused]

/-- A setting that names no limit does nothing. -/
theorem step_unknown (parsed : Directive.parse line.text = some (.setting name value))
    (unknown : ∀ limit, ¬ line.Sets limit name value) : step o s line = .ok s := by
  have none : Limit.ofName? name = none := by
    rw [Option.eq_none_iff_forall_ne_some]
    exact fun limit named => unknown limit ⟨parsed, Limit.ofName?_eq_some_iff.mp named⟩
  rw [step_setting parsed, set_eq, none]

/-- A line that sets no limit is read, and keeps the limits. -/
theorem step_unset (o : Options) (s : Scan)
    (unset : ∀ limit name value, ¬ line.Sets limit name value) :
    ∃ s', step o s line = .ok s' ∧ ∀ limit : Limit, limit.ofScan s' = limit.ofScan s := by
  cases parsed : Directive.parse line.text with
  | none => exact ⟨s, by rw [step, parsed], fun _ => rfl⟩
  | some d =>
    rcases parse_cases parsed with ⟨name, value, rfl⟩ | ⟨tag, value, rfl⟩ | ⟨token, rfl⟩
    · exact ⟨s, step_unknown parsed fun limit => unset limit name value, fun _ => rfl⟩
    · refine ⟨_, by rw [step, parsed], fun limit => ?_⟩
      cases limit <;> rfl
    · rw [step, parsed]
      by_cases selected : (Directive.marker token).selects o.tag = true
      · simp only [selected, if_true, add_eq]
        refine ⟨_, rfl, fun limit => ?_⟩
        split <;> cases limit <;> rfl
      · simp only [selected, Bool.false_eq_true, if_false]
        exact ⟨s, rfl, fun _ => rfl⟩

/-- Every line that is not faulty is read. -/
theorem exists_step_ok (o : Options) (s : Scan)
    (sound : ∀ name value, ¬ line.IsFaulty name value) : ∃ s', step o s line = .ok s' := by
  by_cases unset : ∀ limit name value, ¬ line.Sets limit name value
  · obtain ⟨s', read, -⟩ := step_unset o s unset
    exact ⟨s', read⟩
  · simp only [not_forall, not_not] at unset
    obtain ⟨limit, name, value, sets⟩ := unset
    by_cases amount : ∃ n, IsAmount value n
    · obtain ⟨n, amount⟩ := amount
      exact ⟨_, step_put sets amount⟩
    · exact (sound name value ⟨⟨limit, sets⟩, not_exists.mp amount⟩).elim

/-- A line that is read puts its value in the place of the limit that it sets. -/
theorem limit_of_step (h : step o s line = .ok s') (sets : line.Sets limit name value) :
    IsAmount value (limit.ofScan s') := by
  by_cases amount : ∃ n, IsAmount value n
  · obtain ⟨n, amount⟩ := amount
    cases (step_put sets amount).symm.trans h
    rw [Limit.ofScan_put]
    exact amount
  · have failed := step_faulty (o := o) (s := s) ⟨⟨limit, sets⟩, not_exists.mp amount⟩
    cases failed.symm.trans h

/-- A line that does not set a limit keeps it. -/
theorem limit_of_step_unset (h : step o s line = .ok s')
    (unset : ∀ name value, ¬ line.Sets limit name value) :
    limit.ofScan s' = limit.ofScan s := by
  by_cases other : ∃ other name value, line.Sets other name value
  · -- one limit is put in its place, and this one is another
    obtain ⟨other, name, value, sets⟩ := other
    have ne : other ≠ limit := by
      rintro rfl
      exact unset name value sets
    have result := step_put (o := o) (s := s) sets (limit_of_step h sets)
    rw [← Except.ok.inj (result.symm.trans h)]
    exact Limit.ofScan_put_of_ne ne s _
  · simp only [not_exists] at other
    obtain ⟨s'', read, kept⟩ := step_unset o s other
    cases read.symm.trans h
    exact kept limit

/-! ### Lines one after the other -/

variable {lines front back : List Line}

/-- Lines of which none is faulty are read. -/
theorem exists_steps_ok (o : Options) (s : Scan)
    (sound : ∀ a ∈ lines, ∀ name value, ¬ a.IsFaulty name value) :
    ∃ s', steps o s lines = .ok s' := by
  induction lines generalizing s with
  | nil => exact ⟨s, rfl⟩
  | cons line rest ih =>
    obtain ⟨mid, first⟩ := exists_step_ok o s (sound line List.mem_cons_self)
    obtain ⟨s', later⟩ := ih mid fun a mem => sound a (List.mem_cons_of_mem _ mem)
    exact ⟨s', by rw [steps, first]; exact later⟩

/-- A scan fails at the first faulty line, whatever follows. -/
theorem steps_faulty (o : Options) (s : Scan)
    (sound : ∀ a ∈ front, ∀ name value, ¬ a.IsFaulty name value)
    (faulty : line.IsFaulty name value) (back : List Line) :
    steps o s (front ++ line :: back) = .error (.badSetting name value line.number) := by
  obtain ⟨mid, read⟩ := exists_steps_ok o s sound
  rw [steps_append, read]
  simp only [steps, step_faulty faulty]

/-- A scan that succeeds has met no faulty line. -/
theorem sound_of_steps_ok (h : steps o s lines = .ok s') :
    ∀ a ∈ lines, ∀ name value, ¬ a.IsFaulty name value := by
  intro line mem name value faulty
  obtain ⟨front, back, rfl⟩ := List.append_of_mem mem
  obtain ⟨mid, -, later⟩ := steps_append_ok h
  simp only [steps, step_faulty faulty] at later
  cases later

/-- Lines that do not set a limit keep it. -/
theorem limit_of_steps_unset (h : steps o s lines = .ok s')
    (unset : ∀ a ∈ lines, ∀ name value, ¬ a.Sets limit name value) :
    limit.ofScan s' = limit.ofScan s := by
  induction lines generalizing s with
  | nil =>
    cases h
    rfl
  | cons line rest ih =>
    rw [steps] at h
    split at h
    · next mid first =>
      have later := ih h fun a mem => unset a (List.mem_cons_of_mem _ mem)
      exact later.trans (limit_of_step_unset first (unset line List.mem_cons_self))
    · cases h

/-- The last line that sets a limit decides about it. -/
theorem limit_of_steps (h : steps o s (front ++ line :: back) = .ok s')
    (sets : line.Sets limit name value)
    (last : ∀ a ∈ back, ∀ name value, ¬ a.Sets limit name value) :
    IsAmount value (limit.ofScan s') := by
  obtain ⟨mid, -, later⟩ := steps_append_ok h
  rw [steps] at later
  split at later
  · next next_mid here =>
    rw [limit_of_steps_unset later last]
    exact limit_of_step here sets
  · cases later

/-- A setting that names no limit can be left out. -/
theorem steps_unknown (o : Options) (s : Scan)
    (parsed : Directive.parse line.text = some (.setting name value))
    (unknown : ∀ limit, ¬ line.Sets limit name value) (front back : List Line) :
    steps o s (front ++ line :: back) = steps o s (front ++ back) := by
  rw [steps_append, steps_append]
  simp only [steps, step_unknown parsed unknown]

end Scan

/-! ### Sources -/

namespace Plan

variable {o : Options} {lines : List Line}

/-- A text is scanned if none of its lines is faulty. -/
theorem exists_ofLines_ok (o : Options)
    (sound : ∀ a ∈ lines, ∀ name value, ¬ a.IsFaulty name value) :
    ∃ plan, ofLines o lines = .ok plan := by
  obtain ⟨s, scanned⟩ := Scan.exists_steps_ok o (Scan.start o) sound
  exact ⟨s.plan o, by rw [ofLines, scanned]⟩

theorem ofContext_plan (o : Options) (s : Scan) (limit : Limit) :
    limit.ofContext (s.plan o).context = limit.ofScan s := by
  cases limit <;> rfl

theorem ofScan_start (o : Options) (limit : Limit) :
    limit.ofScan (Scan.start o) = limit.ofOptions o := by
  cases limit <;> rfl

/-- **The settings of a text.** A scan fails exactly if some line is a setting of a limit with a
value that no limit can have. It fails with the name and the value of the first of these lines and
its number, whatever follows, and the lines before it are scanned. If a scan succeeds, each limit is
the number that the last of its settings writes, and that of the options if it has none. A setting
of another name can be left out. -/
theorem limits_ofLines (o : Options) (lines : List Line) :
    ((∃ fault, ofLines o lines = .error fault) ↔
      ∃ line ∈ lines, ∃ name value, line.IsFaulty name value) ∧
    (∀ front line back name value, lines = front ++ line :: back →
      (∀ a ∈ front, ∀ name value, ¬ a.IsFaulty name value) → line.IsFaulty name value →
        (∀ part, part <+: front → ∃ plan, ofLines o part = .ok plan) ∧
        ∀ after, ofLines o (front ++ line :: after) =
          .error (.badSetting name value line.number)) ∧
    (∀ plan, ofLines o lines = .ok plan → ∀ limit : Limit,
      ((∀ a ∈ lines, ∀ name value, ¬ a.Sets limit name value) →
        limit.ofContext plan.context = limit.ofOptions o) ∧
      ∀ front line back name value, lines = front ++ line :: back →
        line.Sets limit name value → (∀ a ∈ back, ∀ name value, ¬ a.Sets limit name value) →
          ∀ n, limit.ofContext plan.context = n ↔ IsAmount value n) ∧
    ∀ front line back name value, lines = front ++ line :: back →
      Directive.parse line.text = some (.setting name value) →
        (∀ limit, ¬ line.Sets limit name value) →
          ofLines o lines = ofLines o (front ++ back) := by
  refine ⟨⟨?_, ?_⟩, ?_, ?_, ?_⟩
  · -- a text without a faulty line is scanned, so one that is not scanned has such a line
    rintro ⟨fault, failed⟩
    by_contra! sound
    obtain ⟨plan, scanned⟩ := exists_ofLines_ok o sound
    cases scanned.symm.trans failed
  · rintro ⟨line, mem, name, value, faulty⟩
    cases scanned : ofLines o lines with
    | error fault => exact ⟨fault, rfl⟩
    | ok plan =>
      obtain ⟨s, steps, -⟩ := ofLines_ok scanned
      exact (Scan.sound_of_steps_ok steps line mem name value faulty).elim
  · rintro front line back name value - sound faulty
    constructor
    · intro part isPrefix
      exact exists_ofLines_ok o fun a mem => sound a (isPrefix.subset mem)
    · intro after
      rw [ofLines, Scan.steps_faulty o (Scan.start o) sound faulty]
  · intro plan scanned limit
    obtain ⟨s, steps, rfl⟩ := ofLines_ok scanned
    rw [ofContext_plan]
    constructor
    · intro unset
      rw [Scan.limit_of_steps_unset steps unset, ofScan_start]
    · rintro front line back name value rfl sets last
      have amount : IsAmount value (limit.ofScan s) := Scan.limit_of_steps steps sets last
      exact fun n => ⟨fun same => same ▸ amount, fun other => amount.unique other⟩
  · rintro front line back name value rfl parsed unknown
    rw [ofLines, ofLines, Scan.steps_unknown o (Scan.start o) parsed unknown]

/-- A text that sets one limit twice, and sets the other one to more than it can be. -/
def excessiveText : String :=
  "#@timeout_seconds@7\n#@COLOUR@blue\n#:+: a\n#@Timeout_Seconds@ +0020 \n" ++
    "#@THREAD_POOL_SIZE@18446744073709551616\n#:+: b"

/-- The lines of `excessiveText` that stand before the excess. -/
def moderateLines : List Line :=
  [⟨1, "#@timeout_seconds@7"⟩, ⟨2, "#@COLOUR@blue"⟩, ⟨3, "#:+: a"⟩,
    ⟨4, "#@Timeout_Seconds@ +0020 "⟩]

/-- What is scanned from `moderateLines` for the tag `dev`. -/
def moderatePlan : Plan where
  context := { tag := "dev", poolSize := 5, timeoutSeconds := 20 }
  probes := [
    { id := "3", command := "a"
      overrides := .ofList [("ST_LINE", "3"), ("ST_OS", "unix"), ("ST_TAG", "dev")] }]

theorem limits_ofLines_excessiveText :
    ofLines { tag := .dev } (Line.ofText excessiveText) =
        .error (.badSetting "THREAD_POOL_SIZE" "18446744073709551616" 5) ∧
      ofLines { tag := .dev } moderateLines = .ok moderatePlan ∧
      IsAmount " +0020 " moderatePlan.context.timeoutSeconds := by
  have scanned : ofLines { tag := .dev } moderateLines = .ok moderatePlan := rfl
  obtain ⟨fails, -, succeeds, -⟩ := limits_ofLines { tag := .dev } moderateLines
  obtain ⟨-, timeout⟩ := succeeds moderatePlan scanned .timeoutSeconds
  have sound : ∀ a ∈ moderateLines, ∀ name value, ¬ a.IsFaulty name value := by
    intro a mem name value faulty
    obtain ⟨fault, failed⟩ := fails.mpr ⟨a, mem, name, value, faulty⟩
    cases scanned.symm.trans failed
  have excess : Line.IsFaulty "THREAD_POOL_SIZE" "18446744073709551616"
      ⟨5, "#@THREAD_POOL_SIZE@18446744073709551616"⟩ := by
    have refused : Scan.positive? "18446744073709551616" = none := by decide +kernel
    refine ⟨⟨.poolSize, by decide +kernel⟩, fun n amount => ?_⟩
    cases refused.symm.trans (positive?_eq_some_iff.mpr amount)
  have lines : Line.ofText excessiveText = moderateLines ++
      ⟨5, "#@THREAD_POOL_SIZE@18446744073709551616"⟩ :: [⟨6, "#:+: b"⟩] := by
    decide +kernel
  refine ⟨?_, scanned, ?_⟩
  · obtain ⟨-, first, -⟩ := limits_ofLines { tag := .dev } (Line.ofText excessiveText)
    rw [lines] at first ⊢
    exact (first _ _ _ _ _ rfl sound excess).2 _
  · have sets : Line.Sets .timeoutSeconds "Timeout_Seconds" " +0020 "
        ⟨4, "#@Timeout_Seconds@ +0020 "⟩ := by
      decide +kernel
    exact (timeout (moderateLines.take 3) _ [] _ _ rfl sets nofun _).mp rfl

end Plan

end SmokeTest
