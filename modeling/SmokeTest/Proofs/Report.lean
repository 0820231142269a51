/-
Colour in the report of a batch.

* `Text.IsPlain` — a text in which no escape sequence begins;
* `Text.Span.stripEscapes_renderAll` — without its escape sequences a text is what its spans say;
* `Line.last?` — the last line of a text;
* `Report.Decorated` — what the colours of a report leave as it is, and how the report ends;
* `Report.decorated_of_plain` — colour is only decoration.

Design notes: an outcome may have escape sequences of its own in its texts. They would be removed
along with those of the report, so `IsPlain` is asked for of all texts that come from outside. Line
breaks in these texts need no such care, since the line with the figures comes behind all of them.
-/
import SmokeTest.Proofs.Scan.LineEndings
import SmokeTest.Proofs.Summary
import SmokeTest.Report

namespace SmokeTest

namespace Text

/-! ### Escape sequences -/

/-- No escape sequence begins in the text. -/
def IsPlain (s : String) : Prop :=
  escape ∉ s.toList

instance {s : String} : Decidable (IsPlain s) :=
  inferInstanceAs (Decidable (escape ∉ s.toList))

theorem isPlain_append {s t : String} : IsPlain (s ++ t) ↔ IsPlain s ∧ IsPlain t := by
  simp [IsPlain]

theorem notMem_decimal {c : Char} (noDigit : c.isDigit = false) (n : Nat) :
    c ∉ (decimal n).toList := by
  intro mem
  rw [decimal, String.toList_ofList] at mem
  have digit := Nat.isDigit_of_mem_toDigits (by decide) (by decide) mem
  exact Bool.false_ne_true (noDigit.symm.trans digit)

theorem isPlain_decimal (n : Nat) : IsPlain (decimal n) :=
  notMem_decimal (by decide) n

theorem stripEscapes_append {s : List Char} (plain : escape ∉ s) (rest : List Char) :
    stripEscapes (s ++ rest) = s ++ stripEscapes rest := by
  induction s with
  | nil => rfl
  | cons c s ih =>
    obtain ⟨other, plain⟩ := List.ne_and_not_mem_of_not_mem_cons plain
    rw [List.cons_append, stripEscapes, ih plain, List.cons_append]
    rintro _ rfl
    exact absurd rfl other

theorem skipParameters_append {parameters : List Char}
    (all : ∀ c ∈ parameters, c.isDigit = true ∨ c = ';') (rest : List Char) :
    skipParameters (parameters ++ 'm' :: rest) = rest := by
  induction parameters with
  | nil => rfl
  | cons c parameters ih =>
    obtain ⟨parameter, all⟩ := List.forall_mem_cons.mp all
    rw [List.cons_append, skipParameters, if_pos (by simpa using parameter), ih all]

/-- An escape sequence is removed as a whole. -/
theorem stripEscapes_escapeSequence {parameters : String}
    (all : ∀ c ∈ parameters.toList, c.isDigit = true ∨ c = ';') (rest : List Char) :
    stripEscapes ((escapeSequence parameters).toList ++ rest) = stripEscapes rest := by
  have sequence : (escapeSequence parameters).toList ++ rest =
      '\x1b' :: '[' :: (parameters.toList ++ 'm' :: rest) := by
    simp [escapeSequence, escape]
  rw [sequence, stripEscapes, skipParameters_append all]

namespace Span

/-- A span says its text, in its looks or without them. -/
theorem stripEscapes_render {span : Span} (plain : IsPlain span.text) (color : Bool)
    (rest : List Char) :
    stripEscapes ((span.render color).toList ++ rest) = span.text.toList ++ stripEscapes rest := by
  cases span with
  | plain s => exact stripEscapes_append plain rest
  | bold style s =>
    have plain : escape ∉ s.toList := plain
    cases color with
    | false => exact stripEscapes_append plain rest
    | true =>
      have style_parameters : ∀ c ∈ (styleCode style).toList, c.isDigit = true ∨ c = ';' := by
        rcases style with _ | _ | _ | _ | _ <;> simp [styleCode, Color.code]
      have end_parameters : ∀ c ∈ "0".toList, c.isDigit = true ∨ c = ';' := by simp
      rw [render, if_pos rfl, String.toList_append, String.toList_append, List.append_assoc,
        List.append_assoc, stripEscapes_escapeSequence style_parameters, stripEscapes_append plain,
        stripEscapes_escapeSequence end_parameters, text]

theorem render_false (span : Span) : span.render false = span.text := by
  cases span <;> rfl

theorem toList_renderAll (color : Bool) (spans : List Span) :
    (renderAll color spans).toList = spans.flatMap fun span => (span.render color).toList := by
  rw [renderAll, String.toList_join, List.flatMap_map]

/-- Without its escape sequences a text is what its spans say. -/
theorem stripEscapes_renderAll {spans : List Span} (plain : ∀ span ∈ spans, IsPlain span.text)
    (color : Bool) :
    stripEscapes (renderAll color spans).toList = spans.flatMap fun span => span.text.toList := by
  rw [toList_renderAll]
  induction spans with
  | nil => rw [List.flatMap_nil, List.flatMap_nil, stripEscapes]
  | cons span spans ih =>
    obtain ⟨first, plain⟩ := List.forall_mem_cons.mp plain
    rw [List.flatMap_cons, stripEscapes_render first, ih plain, List.flatMap_cons]

end Span

end Text

namespace Line

/-! ### The last line -/

/-- What follows a `\n` is cut into lines by itself. -/
theorem split_append (front rest : List Char) :
    split (front ++ '\n' :: rest) = split (front ++ ['\n']) ++ split rest := by
  induction front using line_induction with
  | last text unbroken =>
    rw [split_append_newline unbroken, split_append_newline unbroken]
    rfl
  | more text back unbroken ih =>
    rw [List.append_assoc, List.append_assoc, List.cons_append, List.cons_append,
      split_append_newline unbroken, split_append_newline unbroken, ih, List.cons_append]

/-- The last line of the text. -/
def last? (s : String) : Option String :=
  (ofText s).getLast?.map Line.text

theorem last?_eq_some {s text : String} {front : List Char} (endable : Endable text.toList)
    (written : s.toList = front ++ '\n' :: (text.toList ++ ['\n'])) : last? s = some text := by
  rw [last?, ← List.getLast?_map, texts_ofText, written, split_append,
    split_append_newline endable.1, dropReturn_of_not_endsInReturn endable.2, List.map_append]
  simp [split, splitFrom]

end Line

namespace Report

open Text

/-! ### The pieces of a report -/

variable {o : Outcome}

theorem isPlain_labelSpan (v : Verdict) : IsPlain (labelSpan v).text := by
  cases v <;> decide

theorem isPlain_headingSpans {text : String} (plain : IsPlain text) :
    ∀ span ∈ headingSpans text, IsPlain span.text := by
  have newline : IsPlain "\n" := by decide
  simp [headingSpans, Span.text, newline, plain]

theorem isPlain_outcomeSpans (plain : IsPlain o.message) :
    ∀ span ∈ outcomeSpans o, IsPlain span.text := by
  have line : IsPlain (" " ++ o.message ++ "\n") := by
    rw [isPlain_append, isPlain_append]
    exact ⟨⟨by decide, plain⟩, by decide⟩
  exact List.forall_mem_cons.mpr ⟨isPlain_labelSpan _, List.forall_mem_singleton.mpr line⟩

theorem isPlain_padLeft (width : Nat) {s : String} (plain : IsPlain s) :
    IsPlain (padLeft width s) := by
  rw [padLeft, isPlain_append]
  refine ⟨?_, plain⟩
  intro mem
  rw [String.toList_ofList] at mem
  exact absurd (List.eq_of_mem_replicate mem) (by decide)

theorem isPlain_slowSpan (plain : IsPlain o.id) : IsPlain (slowSpan o).text := by
  have time := isPlain_padLeft 8 (isPlain_decimal o.millis)
  have line : IsPlain ("  " ++ padLeft 8 (decimal o.millis) ++ " ms  [" ++ o.id ++ "]\n") := by
    simp only [isPlain_append]
    exact ⟨⟨⟨⟨by decide, time⟩, by decide⟩, plain⟩, by decide⟩
  exact line

/-- The line with the figures has its own words and numerals in it, and nothing else. -/
theorem notMem_figures {c : Char} (noDigit : c.isDigit = false)
    (words : ∀ word ∈ ["SUMM: ", " pass(es) - ", " failure(s) - elapsed ", " ms"],
      c ∉ word.toList) (r : Report) : c ∉ r.figures.toList := by
  have line : r.figures = "SUMM: " ++ decimal r.summary.passedCount ++ " pass(es) - " ++
      decimal r.summary.failedCount ++ " failure(s) - elapsed " ++
      decimal (r.elapsed / nanosPerMilli) ++ " ms" := rfl
  rw [line]
  simp only [String.toList_append, List.mem_append, not_or]
  exact ⟨⟨⟨⟨⟨⟨words _ (by simp), notMem_decimal noDigit _⟩, words _ (by simp)⟩,
    notMem_decimal noDigit _⟩, words _ (by simp)⟩, notMem_decimal noDigit _⟩, words _ (by simp)⟩

/-- The line with the figures is one line. -/
theorem endable_figures (r : Report) : Line.Endable r.figures.toList := by
  refine ⟨notMem_figures rfl (by decide) r, ?_⟩
  intro carriage
  exact notMem_figures rfl (by decide) r (List.mem_of_getLast? carriage)

theorem isPlain_outcomes {outcomes : List Outcome}
    (plain : ∀ o ∈ outcomes, IsPlain o.message) :
    ∀ span ∈ outcomes.flatMap outcomeSpans, IsPlain span.text := by
  intro span mem
  obtain ⟨o, here, mem⟩ := List.mem_flatMap.mp mem
  exact isPlain_outcomeSpans (plain o here) span mem

theorem isPlain_slowestSpans {slowest : List Outcome} (plain : ∀ o ∈ slowest, IsPlain o.id) :
    ∀ span ∈ slowestSpans slowest, IsPlain span.text := by
  have heading : IsPlain ("Slowest " ++ decimal slowest.length ++ " pass(es):") := by
    simp only [isPlain_append, isPlain_decimal]
    decide
  rw [slowestSpans]
  split
  · nofun
  · rw [List.forall_mem_append]
    refine ⟨isPlain_headingSpans heading, ?_⟩
    intro span mem
    obtain ⟨o, here, rfl⟩ := List.mem_map.mp mem
    exact isPlain_slowSpan (plain o here)

theorem isPlain_failureSpans {failures : List Outcome}
    (plain : ∀ o ∈ failures, IsPlain o.message) :
    ∀ span ∈ failureSpans failures, IsPlain span.text := by
  rw [failureSpans]
  split
  · nofun
  · rw [List.forall_mem_append]
    exact ⟨isPlain_headingSpans (by decide), isPlain_outcomes plain⟩

/-- Every piece of a report is plain if all texts that come from outside are. -/
theorem isPlain_spans {r : Report} (messages : ∀ o ∈ r.summary.outcomes, IsPlain o.message)
    (ids : ∀ o ∈ r.summary.slowest, IsPlain o.id) (started : IsPlain r.started) :
    ∀ span ∈ r.spans, IsPlain span.text := by
  have banner : IsPlain (" v" ++ version ++ " - run started " ++ r.started ++ "\n") := by
    simp only [isPlain_append]
    exact ⟨⟨by decide, started⟩, by decide⟩
  have failed : ∀ o ∈ r.summary.failures, IsPlain o.message :=
    fun o mem => messages o (List.mem_of_mem_filter mem)
  simp only [spans, List.forall_mem_append, List.forall_mem_cons]
  exact ⟨⟨⟨⟨⟨⟨by decide, banner, nofun⟩, isPlain_headingSpans (by decide)⟩,
    isPlain_outcomes messages⟩, isPlain_slowestSpans ids⟩, isPlain_failureSpans failed⟩,
    by decide, notMem_figures rfl (by decide) r, by decide, nofun⟩

/-! ### The whole report -/

/-- The line with the figures stands behind everything else. -/
theorem exists_flatMap_spans (r : Report) :
    ∃ front, (r.spans.flatMap fun span => span.text.toList) =
      front ++ '\n' :: (r.figures.toList ++ ['\n']) := by
  rw [spans, List.flatMap_append]
  exact ⟨_, rfl⟩

/-- What the colours of a report leave as it is, and how the report ends. -/
structure Decorated (outcomes : List Outcome) (r : Report) : Prop where
  /-- Without its escape sequences the report in colours is the one without colours. -/
  stripped : stripEscapes (r.render true).toList = (r.render false).toList
  /-- There are escape sequences in the one and none in the other. -/
  coloured : ¬ IsPlain (r.render true) ∧ IsPlain (r.render false)
  /-- The last line of either gives the number of passes, the number of all other outcomes and the
  whole milliseconds of the run. -/
  last : ∀ color, Line.last? (String.ofList (stripEscapes (r.render color).toList)) =
    some ("SUMM: " ++ decimal (outcomes.countP Outcome.passed) ++ " pass(es) - " ++
      decimal (outcomes.countP fun o => !o.passed) ++ " failure(s) - elapsed " ++
      decimal (r.elapsed / 1000000) ++ " ms")

/-- **Colour is only decoration.** Whatever the outcomes, if no escape sequence begins in their ids
and messages, the report in colours differs from the one without them in nothing but its escape
sequences, and the last line of both has the true figures, whatever lines the messages have. -/
theorem decorated_of_plain (outcomes : List Outcome) (top elapsed : Nat) {started : String}
    (plain : ∀ o ∈ outcomes, IsPlain o.id ∧ IsPlain o.message) (shown : IsPlain started) :
    Decorated outcomes ⟨Summary.ofOutcomes outcomes top, elapsed, started⟩ := by
  generalize report : Report.mk (Summary.ofOutcomes outcomes top) elapsed started = r
  have pieces : ∀ span ∈ r.spans, IsPlain span.text := by
    subst report
    refine isPlain_spans (fun o mem => (plain o mem).2) (fun o mem => ?_) shown
    -- the slowest passes are some of the outcomes
    have passed := List.mem_mergeSort.mp (List.mem_of_mem_take mem)
    exact (plain o (List.mem_of_mem_filter passed)).1
  have stripped (color : Bool) := Span.stripEscapes_renderAll pieces color
  have bare : (r.render false).toList = r.spans.flatMap fun span => span.text.toList := by
    simp only [render, Span.toList_renderAll, Span.render_false]
  constructor
  · exact (stripped true).trans bare.symm
  · constructor
    · intro uncoloured
      refine uncoloured ?_
      rw [render, Span.toList_renderAll]
      exact List.mem_flatMap.mpr ⟨.bold none appName, by simp [spans], by decide⟩
    · intro mem
      rw [bare] at mem
      obtain ⟨span, here, mem⟩ := List.mem_flatMap.mp mem
      exact pieces span here mem
  · intro color
    obtain ⟨front, behind⟩ := exists_flatMap_spans r
    have last := Line.last?_eq_some (s := String.ofList (stripEscapes (r.render color).toList))
      (endable_figures r) (by rw [String.toList_ofList, render, stripped color, behind])
    rw [last]
    subst report
    rw [← passedCount_eq]
    rfl

/-- A failure whose message has a line that looks like the last line of a report, and a pass. -/
def forgedOutcomes : List Outcome :=
  [⟨"a", .fail, 5000000, "no\n\nSUMM: 2 pass(es) - 0 failure(s) - elapsed 1 ms\n"⟩,
    ⟨"b", .pass, 7000000, "done"⟩]

/-- The report of these outcomes, of a run of twelve seconds. -/
def forgedReport : Report where
  summary := Summary.ofOutcomes forgedOutcomes 5
  elapsed := 12345678901
  started := "2024-01-02 03:04:05"

/-- With and without colours it still ends with the true figures. -/
theorem decorated_forgedReport :
    (∀ o ∈ forgedOutcomes, IsPlain o.id ∧ IsPlain o.message) ∧ IsPlain forgedReport.started ∧
      stripEscapes (forgedReport.render true).toList = (forgedReport.render false).toList ∧
      Line.last? (String.ofList (stripEscapes (forgedReport.render true).toList)) =
        some "SUMM: 1 pass(es) - 1 failure(s) - elapsed 12345 ms" := by
  have plain : ∀ o ∈ forgedOutcomes, IsPlain o.id ∧ IsPlain o.message := by decide
  have shown : IsPlain forgedReport.started := by decide
  have decorated : Decorated forgedOutcomes forgedReport :=
    decorated_of_plain forgedOutcomes 5 12345678901 plain shown
  exact ⟨plain, shown, decorated.stripped, decorated.last true⟩

end Report

end SmokeTest
