/-
The line endings of a text source.

* `Written texts s` — `s` consists of the texts, each of them ended by `\n` or by `\r\n`, where a
  last text that is not empty need not be ended;
* `split_first`, `split_last` — the lines of a text, one after the other;
* `written_iff` — texts are written in `s` exactly if they are its lines and none of them ends in a
  carriage return;
* `split_append_ending` — an ending at the very end adds no line, or an empty one;
* `Located` — what has been scanned names lines by their places among the texts;
* `lines_of_written` — whatever the endings, a source has the lines that it is written from, with
  their places for numbers, and the same plan.

Design notes: a carriage return right before `\n` is part of the ending and not of the line. A text
that ends in one is therefore no line of a source in which `\n` ends it, which is why `Written` asks
for texts that do not. Everywhere else a carriage return is a character like others.
-/
import SmokeTest.Proofs.Scan.Acceptance
import SmokeTest.Proofs.Text.Split

namespace SmokeTest

namespace Line

/-! ### Texts with endings -/

/-- What ends a line. -/
inductive Ending
  | lf
  | crlf
  deriving DecidableEq, Repr

/-- The characters of an ending. -/
def Ending.chars : Ending → List Char
  | lf => ['\n']
  | crlf => ['\r', '\n']

/-- The last character is a carriage return. -/
def EndsInReturn (s : List Char) : Prop :=
  s.getLast? = some '\r'

instance {s : List Char} : Decidable (EndsInReturn s) :=
  inferInstanceAs (Decidable (s.getLast? = some '\r'))

/-- The ending can be put after the text: together with a carriage return `\n` is another ending. -/
def Ending.Follows (ending : Ending) (text : List Char) : Prop :=
  ending = lf → ¬ EndsInReturn text

/-- The text can be a line, whatever ends the line. -/
def Endable (text : List Char) : Prop :=
  '\n' ∉ text ∧ ¬ EndsInReturn text

/-- The source consists of the texts, each with an ending of its own; the last one need not have one
if it is not empty. -/
inductive Written : List String → List Char → Prop
  | nil : Written [] []
  | unended {text : String} : Endable text.toList → text ≠ "" → Written [text] text.toList
  | ended {text : String} {texts : List String} {rest : List Char} (ending : Ending) :
      Endable text.toList → Written texts rest →
        Written (text :: texts) (text.toList ++ (ending.chars ++ rest))

/-! ### One line after the other -/

theorem dropReturn_of_not_endsInReturn {text : List Char} (whole : ¬ EndsInReturn text) :
    dropReturn text = text := by
  rw [dropReturn]
  split
  · next front reversed =>
    refine absurd ?_ whole
    rw [EndsInReturn, List.getLast?_eq_head?_reverse, reversed, List.head?_cons]
  · rfl

theorem dropReturn_concat (text : List Char) : dropReturn (text ++ ['\r']) = text := by
  rw [dropReturn, List.reverse_append, List.reverse_singleton, List.singleton_append]
  exact List.reverse_reverse text

/-- What comes before the next `\n` is added to the line that has been read so far. -/
theorem splitFrom_append {text : List Char} (unbroken : '\n' ∉ text) (line rest : List Char) :
    splitFrom line (text ++ rest) = splitFrom (text.reverse ++ line) rest := by
  -- every character goes to the line, so the line is kept general
  induction text generalizing line with
  | nil => rfl
  | cons c text ih =>
    obtain ⟨other, unbroken⟩ := List.ne_and_not_mem_of_not_mem_cons unbroken
    rw [List.cons_append, splitFrom.eq_3 _ _ _ other.symm, ih unbroken, List.reverse_cons,
      List.append_assoc, List.singleton_append]

theorem split_append_newline {text : List Char} (unbroken : '\n' ∉ text) (rest : List Char) :
    split (text ++ '\n' :: rest) = dropReturn text :: split rest := by
  rw [split, splitFrom_append unbroken, List.append_nil, splitFrom, List.reverse_reverse, split]

/-- The first line ends before the first ending. -/
theorem split_first {text : List Char} (unbroken : '\n' ∉ text) {ending : Ending}
    (follows : ending.Follows text) (rest : List Char) :
    split (text ++ (ending.chars ++ rest)) = text :: split rest := by
  cases ending with
  | lf =>
    rw [Ending.chars, List.singleton_append, split_append_newline unbroken,
      dropReturn_of_not_endsInReturn (follows rfl)]
  | crlf =>
    -- the carriage return is first read as a part of the line
    have unbroken : '\n' ∉ text ++ ['\r'] := by simpa using unbroken
    have regroup : text ++ (Ending.crlf.chars ++ rest) = (text ++ ['\r']) ++ '\n' :: rest := by
      simp [Ending.chars]
    rw [regroup, split_append_newline unbroken, dropReturn_concat]

/-- What no `\n` follows is a line if it is not empty, with all its carriage returns. -/
theorem split_last {text : List Char} (unbroken : '\n' ∉ text) (some_text : text ≠ []) :
    split text = [text] := by
  have read := splitFrom_append unbroken [] []
  rw [List.append_nil, List.append_nil] at read
  rw [split, read, splitFrom, if_neg (by simpa using some_text), List.reverse_reverse]

/-- A text has no `\n`, or it goes on after the first one. -/
theorem line_induction {motive : List Char → Prop}
    (last : ∀ text, '\n' ∉ text → motive text)
    (more : ∀ text rest, '\n' ∉ text → motive rest → motive (text ++ '\n' :: rest))
    (s : List Char) : motive s := by
  cases cut : Text.cut '\n' s with
  | none => exact last s (Text.cut_eq_none_iff.mp cut)
  | some parts =>
    obtain ⟨parted, unbroken⟩ := Text.cut_eq_some_iff.mp cut
    have shorter : parts.2.length < s.length := by
      rw [parted, List.length_append, List.length_cons]
      omega
    rw [parted]
    exact more parts.1 parts.2 unbroken (line_induction last more parts.2)
termination_by s.length

/-! ### The lines of what is written -/

theorem split_of_written {texts : List String} {s : List Char} (h : Written texts s) :
    split s = texts.map String.toList := by
  induction h with
  | nil => rfl
  | unended endable some_text => exact split_last endable.1 (by simpa using some_text)
  | ended ending endable _ ih => rw [split_first endable.1 fun _ => endable.2, ih, List.map_cons]

theorem endable_of_written {texts : List String} {s : List Char} (h : Written texts s) :
    ∀ text ∈ texts, Endable text.toList := by
  induction h with
  | nil => nofun
  | unended endable _ => exact List.forall_mem_singleton.mpr endable
  | ended _ endable _ ih => exact List.forall_mem_cons.mpr ⟨endable, ih⟩

theorem written_ended {text : List Char} {texts : List String} {rest : List Char}
    (ending : Ending) (endable : Endable text) (h : Written texts rest) :
    Written (String.ofList text :: texts) (text ++ (ending.chars ++ rest)) := by
  have ended : Written (String.ofList text :: texts)
      ((String.ofList text).toList ++ (ending.chars ++ rest)) :=
    .ended ending (by simpa using endable) h
  simpa using ended

/-- A source is written from its lines if none of them ends in a carriage return. -/
theorem written_split {s : List Char} (whole : ∀ line ∈ split s, ¬ EndsInReturn line) :
    Written ((split s).map String.ofList) s := by
  induction s using line_induction with
  | last text unbroken =>
    by_cases empty : text = []
    · rw [empty]
      exact .nil
    · rw [split_last unbroken empty] at whole ⊢
      have written : Written [String.ofList text] (String.ofList text).toList :=
        .unended ⟨by simpa using unbroken, by simpa using whole⟩ (by simpa using empty)
      simpa using written
  | more text rest unbroken ih =>
    rw [split_append_newline unbroken, List.forall_mem_cons] at whole
    rw [split_append_newline unbroken, List.map_cons]
    have written := ih whole.2
    by_cases carriage : EndsInReturn text
    · -- the carriage return belongs to the ending
      obtain ⟨front, rfl⟩ := List.getLast?_eq_some_iff.mp carriage
      rw [dropReturn_concat] at whole ⊢
      have endable : Endable front :=
        ⟨fun mem => unbroken (List.mem_append_left _ mem), whole.1⟩
      simpa [Ending.chars] using written_ended .crlf endable written
    · rw [dropReturn_of_not_endsInReturn carriage]
      exact written_ended .lf ⟨unbroken, carriage⟩ written

/-- The texts that a source is written from are its lines. -/
theorem written_iff {texts : List String} {s : List Char} :
    Written texts s ↔
      split s = texts.map String.toList ∧ ∀ text ∈ texts, ¬ EndsInReturn text.toList := by
  constructor
  · intro h
    exact ⟨split_of_written h, fun text mem => (endable_of_written h text mem).2⟩
  · rintro ⟨lines, whole⟩
    have written : Written ((split s).map String.ofList) s := by
      refine written_split fun line mem => ?_
      rw [lines] at mem
      obtain ⟨text, here, rfl⟩ := List.mem_map.mp mem
      exact whole text here
    rw [lines, List.map_map] at written
    simpa [Function.comp_def] using written

/-- An ending at the very end ends the last line, or an empty one that is not there without it. -/
theorem split_append_ending {s : List Char} {ending : Ending} (follows : ending.Follows s) :
    split (s ++ ending.chars) = split s ∨ split (s ++ ending.chars) = split s ++ [[]] := by
  induction s using line_induction with
  | last text unbroken =>
    have only := split_first unbroken follows []
    rw [List.append_nil] at only
    by_cases empty : text = []
    · -- a source without lines gets an empty one
      right
      rw [only, empty]
      rfl
    · left
      rw [only, split_last unbroken empty]
      rfl
  | more text rest unbroken ih =>
    have follows : ending.Follows rest := by
      intro lf carriage
      obtain ⟨front, rfl⟩ := List.getLast?_eq_some_iff.mp carriage
      exact follows lf (List.getLast?_eq_some_iff.mpr ⟨text ++ '\n' :: front, by simp⟩)
    rw [List.append_assoc, List.cons_append, split_append_newline unbroken,
      split_append_newline unbroken]
    exact (ih follows).imp (congrArg _) (congrArg _)

/-! ### Places -/

theorem texts_ofText (s : String) :
    (ofText s).map Line.text = (split s.toList).map String.ofList := by
  conv_rhs => rw [← List.zipIdx_map_fst 1 (split s.toList), List.map_map]
  rw [ofText, List.map_map]
  rfl

/-- A source has the lines that it is written from, with their places for numbers. -/
theorem ofText_of_written {texts : List String} {s : String} (h : Written texts s.toList) :
    (ofText s).map Line.text = texts ∧
      (ofText s).map Line.number = List.range' 1 texts.length := by
  rw [texts_ofText, numbers_ofText, split_of_written h, List.map_map, List.length_map]
  exact ⟨by simp [Function.comp_def], rfl⟩

/-- The number of a line is its place among the texts, counted from 1. -/
theorem place_of_mem {texts : List String} {lines : List Line}
    (same : lines.map Line.text = texts)
    (numbers : lines.map Line.number = List.range' 1 texts.length) {line : Line}
    (mem : line ∈ lines) : ∃ i, texts[i]? = some line.text ∧ line.number = i + 1 := by
  obtain ⟨i, here⟩ := List.mem_iff_getElem?.mp mem
  have text : (lines.map Line.text)[i]? = some line.text := by
    rw [List.getElem?_map, here, Option.map_some]
  have number : (lines.map Line.number)[i]? = some line.number := by
    rw [List.getElem?_map, here, Option.map_some]
  rw [same] at text
  rw [numbers, List.getElem?_range' (List.getElem?_eq_some_iff.mp text).1] at number
  have place : 1 + 1 * i = line.number := Option.some.inj number
  exact ⟨i, text, by omega⟩

/-- A line without characters adds nothing. -/
theorem ofLines_concat_empty (o : Options) (lines : List Line) (number : Nat) :
    Plan.ofLines o (lines ++ [⟨number, ""⟩]) = Plan.ofLines o lines := by
  have nothing (s : Scan) : Scan.steps o s [⟨number, ""⟩] = .ok s := rfl
  rw [Plan.ofLines, Scan.steps_append, Plan.ofLines]
  cases Scan.steps o (Scan.start o) lines with
  | ok s => simp only [nothing]
  | error fault => rfl

/-- An ending at the very end changes nothing about the plan. -/
theorem ofLines_append_ending (o : Options) {front s : String} {ending : Ending}
    (longer : s.toList = front.toList ++ ending.chars) (follows : ending.Follows front.toList) :
    Plan.ofLines o (ofText s) = Plan.ofLines o (ofText front) := by
  rcases split_append_ending follows with same | more
  · rw [ofText, longer, same, ofText]
  · -- there is one more line, without characters
    rw [ofText, longer, more, List.zipIdx_append, List.map_append]
    exact ofLines_concat_empty o _ _

/-- What has been scanned names lines by their places among the texts, counted from 1: a probe names
the place of its command in its id and in the variable for the line, and an error the place of the
setting. -/
structure Located (o : Options) (texts : List String) (scanned : Except Error Plan) : Prop where
  probes : ∀ plan, scanned = .ok plan → ∀ p ∈ plan.probes, ∃ i text, texts[i]? = some text ∧
    p.command = (Directive.commandOf text).trimBlank ∧ p.id = Text.decimal (i + 1) ∧
    p.overrides.get? o.names.line = some (Text.decimal (i + 1))
  fault : ∀ fault, scanned = .error fault → ∃ i text name value, texts[i]? = some text ∧
    Directive.parse text = some (.setting name value) ∧ fault = .badSetting name value (i + 1)

theorem located_ofLines {texts : List String} {lines : List Line}
    (same : lines.map Line.text = texts)
    (numbers : lines.map Line.number = List.range' 1 texts.length) (o : Options) :
    Located o texts (Plan.ofLines o lines) := by
  constructor
  · intro plan scanned p mem
    obtain ⟨s, steps, rfl⟩ := Plan.ofLines_ok scanned
    obtain ⟨line, here, value, rfl⟩ := Scan.exists_line_of_mem steps p mem
    obtain ⟨i, text, number⟩ := place_of_mem same numbers here
    refine ⟨i, line.text, text, rfl, congrArg Text.decimal number, ?_⟩
    rw [← number, get?_probe]
    exact List.mem_append_left _ (.tail _ (.tail _ (.head _)))
  · intro fault failed
    obtain ⟨line, here, name, value, parsed, eq⟩ := Scan.steps_error (Plan.ofLines_error failed)
    obtain ⟨i, text, number⟩ := place_of_mem same numbers here
    exact ⟨i, line.text, name, value, text, parsed, number ▸ eq⟩

/-- **Line endings make no difference.** A source that is written from texts, each ended by `\n` or
by `\r\n` as it may be, has these texts for its lines, numbered from 1. Ids, the variable for the
line and errors name lines by these numbers; the plan or the error stays the same when some of the
endings are replaced by the other one, and when the one at the very end is dropped. -/
theorem lines_of_written {texts : List String} {s : String} (h : Written texts s.toList) :
    ((ofText s).map Line.text = texts ∧
      (ofText s).map Line.number = List.range' 1 texts.length) ∧
      ∀ o : Options, Located o texts (Plan.ofLines o (ofText s)) ∧
        (∀ s' : String, Written texts s'.toList →
          Plan.ofLines o (ofText s') = Plan.ofLines o (ofText s)) ∧
        ∀ (front : String) (ending : Ending), s.toList = front.toList ++ ending.chars →
          ending.Follows front.toList →
            Plan.ofLines o (ofText front) = Plan.ofLines o (ofText s) := by
  obtain ⟨same, numbers⟩ := ofText_of_written h
  refine ⟨⟨same, numbers⟩, fun o => ⟨located_ofLines same numbers o, fun s' h' => ?_, ?_⟩⟩
  · rw [ofText, split_of_written h', ← split_of_written h, ← ofText]
  · intro front ending longer follows
    exact (ofLines_append_ending o longer follows).symm

/-- A command with a carriage return in it, an empty line, an assignment and another command. -/
def mixedTexts : List String :=
  ["#:+: echo a\rb", "", "#=dev=one", "#:dev: echo c"]

/-- The texts with both endings, the last one without any. -/
def mixedText : String :=
  "#:+: echo a\rb\r\n\n#=dev=one\r\n#:dev: echo c"

/-- The texts with one ending. -/
def uniformText : String :=
  "#:+: echo a\rb\n\n#=dev=one\n#:dev: echo c\n"

/-- What is scanned from `mixedText` for the tag `dev`. -/
def mixedPlan : Plan where
  context := { tag := "dev", poolSize := 5, timeoutSeconds := 600, value := some "one" }
  probes := [
    { id := "1", command := "echo a\rb"
      overrides := .ofList [("ST_LINE", "1"), ("ST_OS", "unix"), ("ST_TAG", "dev")] },
    { id := "4", command := "echo c"
      overrides := .ofList
        [("ST_LINE", "4"), ("ST_OS", "unix"), ("ST_TAG", "dev"), ("ST_VALUE", "one")] }]

/-- Both ways to write the texts have the same lines and the same plan. That the second line of
another source carries no limit is told with its number, whether the line is ended or not. -/
theorem lines_of_written_mixedText :
    Written mixedTexts mixedText.toList ∧ Written mixedTexts uniformText.toList ∧
      (ofText mixedText).map Line.text = mixedTexts ∧
      (ofText mixedText).map Line.number = [1, 2, 3, 4] ∧
      Plan.ofLines { tag := .dev } (ofText mixedText) = .ok mixedPlan ∧
      Located { tag := .dev } mixedTexts (.ok mixedPlan) ∧
      Plan.ofLines { tag := .dev } (ofText uniformText) = .ok mixedPlan ∧
      Written ["a", "#@TIMEOUT_SECONDS@0"] "a\r\n#@TIMEOUT_SECONDS@0\r\n".toList ∧
      Plan.ofLines { tag := .dev } (ofText "a\r\n#@TIMEOUT_SECONDS@0") =
        Plan.ofLines { tag := .dev } (ofText "a\r\n#@TIMEOUT_SECONDS@0\r\n") ∧
      Plan.ofLines { tag := .dev } (ofText "a\r\n#@TIMEOUT_SECONDS@0") =
        .error (.badSetting "TIMEOUT_SECONDS" "0" 2) := by
  have mixed : Written mixedTexts mixedText.toList := written_iff.mpr (by decide +kernel)
  have uniform : Written mixedTexts uniformText.toList := written_iff.mpr (by decide +kernel)
  have failing : Written ["a", "#@TIMEOUT_SECONDS@0"] "a\r\n#@TIMEOUT_SECONDS@0\r\n".toList :=
    written_iff.mpr (by decide +kernel)
  have scanned : Plan.ofLines { tag := .dev } (ofText mixedText) = .ok mixedPlan := rfl
  obtain ⟨⟨texts, numbers⟩, plans⟩ := lines_of_written mixed
  obtain ⟨located, converted, -⟩ := plans { tag := .dev }
  obtain ⟨-, -, dropped⟩ := (lines_of_written failing).2 { tag := .dev }
  exact ⟨mixed, uniform, texts, numbers, scanned, scanned ▸ located,
    (converted uniformText uniform).trans scanned, failing,
    dropped "a\r\n#@TIMEOUT_SECONDS@0" .crlf rfl nofun, rfl⟩

end Line

end SmokeTest
