/-
What a run prints of a batch that is over.

* `shownLine`, `shownFailures`, `shownFigures` — the parts of a report, letter by letter;
* `Printed` — a text that shows the outcomes of a batch, its failures and its figures;
* `printed_report` — the output of a run with a batch is such a text.

Design notes: `Printed` is made of texts and not of the pieces that a report is put together from.
The heading and the list of slow passes are left open in it. With colours a text may stand in an
escape sequence, but it is the same text.
-/
import SmokeTest.CommandLine.Program
import SmokeTest.Proofs.Summary

namespace SmokeTest.CommandLine

open Pool (Batch State)
open Text (Span)

/-! ### The parts of a report -/

/-- A text as it is shown: in the style if there are colours, and as it is otherwise. -/
def shown (color : Bool) (style text : String) : String :=
  if color then "\x1b[" ++ style ++ "m" ++ text ++ "\x1b[0m" else text

/-- The word of a verdict is ten characters wide and has a colour of its own. -/
def shownVerdict (color : Bool) : Verdict → String
  | .pass => shown color "1;32" "PASS      "
  | .fail => shown color "1;31" "FAIL      "
  | .execError => shown color "1;35" "EXEC_ERROR"
  | .userError => shown color "1;33" "USER_ERROR"

/-- The line of an outcome. -/
def shownLine (color : Bool) (o : Outcome) : String :=
  shownVerdict color o.verdict ++ " " ++ o.message ++ "\n"

/-- The lines of outcomes, in their order. -/
def shownLines (color : Bool) (outcomes : List Outcome) : String :=
  String.join (outcomes.map (shownLine color))

/-- A heading on a line of its own, after a blank line. -/
def shownHeading (color : Bool) (text : String) : String :=
  "\n" ++ shown color "1" text ++ "\n"

/-- The lines of all outcomes that are no passes, under a heading if there are any. -/
def shownFailures (color : Bool) (outcomes : List Outcome) : String :=
  let failures := outcomes.filter fun o => o.verdict ≠ .pass
  if failures = [] then "" else shownHeading color "Failures:" ++ shownLines color failures

/-- The line with the figures: the passes, all other outcomes, and the whole milliseconds of the
run. It is green if there are passes only, and red otherwise. -/
def shownFigures (color : Bool) (outcomes : List Outcome) (elapsed : Nat) : String :=
  let passes := outcomes.countP fun o => o.verdict = .pass
  let failures := outcomes.countP fun o => o.verdict ≠ .pass
  shown color (if failures = 0 then "1;32" else "1;31")
    s!"SUMM: {passes} pass(es) - {failures} failure(s) - elapsed {elapsed / 1000000} ms"

/-- The text shows each outcome of a batch on a line, in their order; then, behind a list of slow
passes, the failures among them once more; and last the figures of the batch. -/
def Printed (color : Bool) (outcomes : List Outcome) (elapsed : Nat) (text : String) : Prop :=
  ∃ front slow, text = front ++ shownHeading color "Results:" ++ shownLines color outcomes ++
    slow ++ shownFailures color outcomes ++ "\n" ++ shownFigures color outcomes elapsed ++ "\n\n"

/-! ### The pieces it is put together from -/

theorem render_bold (color : Bool) (style : Option Text.Color) (text : String) :
    (Span.bold style text).render color = shown color (Span.styleCode style) text := by
  cases color with
  | false => rfl
  | true =>
    simp [Span.render, shown, Text.escapeSequence, Text.escape]

theorem renderAll_append (color : Bool) (front back : List Span) :
    Span.renderAll color (front ++ back) =
      Span.renderAll color front ++ Span.renderAll color back := by
  rw [Span.renderAll, List.map_append, String.join_append]
  rfl

theorem renderAll_cons (color : Bool) (span : Span) (spans : List Span) :
    Span.renderAll color (span :: spans) = span.render color ++ Span.renderAll color spans := by
  rw [Span.renderAll, List.map_cons, String.join_cons]
  rfl

theorem renderAll_nil (color : Bool) : Span.renderAll color [] = "" := rfl

theorem render_labelSpan (color : Bool) (v : Verdict) :
    (Report.labelSpan v).render color = shownVerdict color v := by
  rw [Report.labelSpan, render_bold]
  cases v <;> rfl

theorem renderAll_outcomeSpans (color : Bool) (o : Outcome) :
    Span.renderAll color (Report.outcomeSpans o) = shownLine color o := by
  rw [Report.outcomeSpans, renderAll_cons, renderAll_cons, renderAll_nil, render_labelSpan]
  simp [Span.render, shownLine, toString, String.append_assoc]

theorem renderAll_outcomes (color : Bool) (outcomes : List Outcome) :
    Span.renderAll color (outcomes.flatMap Report.outcomeSpans) = shownLines color outcomes := by
  induction outcomes with
  | nil => rfl
  | cons o outcomes ih =>
    rw [List.flatMap_cons, renderAll_append, renderAll_outcomeSpans, ih, shownLines, shownLines,
      List.map_cons, String.join_cons]

theorem renderAll_headingSpans (color : Bool) (text : String) :
    Span.renderAll color (Report.headingSpans text) = shownHeading color text := by
  rw [Report.headingSpans, renderAll_cons, renderAll_cons, renderAll_cons, renderAll_nil,
    render_bold]
  simp [Span.render, shownHeading, Span.styleCode, String.append_assoc]

theorem renderAll_failureSpans (color : Bool) (outcomes : List Outcome) :
    Span.renderAll color (Report.failureSpans (failures outcomes)) =
      shownFailures color outcomes := by
  have same : failures outcomes = outcomes.filter fun o => o.verdict ≠ .pass := by
    simp [failures, Outcome.passed]
  rw [Report.failureSpans, same, shownFailures]
  simp only [List.isEmpty_iff]
  split
  · rfl
  · rw [renderAll_append, renderAll_headingSpans, renderAll_outcomes]

/-- The line with the figures has those of the outcomes. -/
theorem render_figures (color : Bool) (outcomes : List Outcome) (top elapsed : Nat)
    (started : String) :
    let r : Report := ⟨Summary.ofOutcomes outcomes top, elapsed, started⟩
    (Span.bold (some (if r.summary.failedCount = 0 then .green else .red)) r.figures).render color =
      shownFigures color outcomes elapsed := by
  have passes : (Summary.ofOutcomes outcomes top).passedCount =
      outcomes.countP fun o => o.verdict = .pass := passedCount_eq outcomes
  have failures : (Summary.ofOutcomes outcomes top).failedCount =
      outcomes.countP fun o => o.verdict ≠ .pass := by
    simp [Summary.ofOutcomes, failedCount, Outcome.passed]
  simp only [render_bold, Report.figures, passes, failures, shownFigures]
  congr 1
  split <;> rfl

/-- The text of a report, part by part. -/
theorem render_eq (color : Bool) (outcomes : List Outcome) (top elapsed : Nat) (started : String) :
    ∃ front slow, (Report.mk (Summary.ofOutcomes outcomes top) elapsed started).render color =
      front ++ shownHeading color "Results:" ++ shownLines color outcomes ++ slow ++
        shownFailures color outcomes ++ "\n" ++ shownFigures color outcomes elapsed ++ "\n" := by
  have last (span : Span) : Span.renderAll color [.plain "\n", span, .plain "\n"] =
      "\n" ++ span.render color ++ "\n" := by
    simp [renderAll_cons, renderAll_nil, Span.render, String.append_assoc]
  rw [← render_figures color outcomes top elapsed started, ← renderAll_failureSpans,
    ← renderAll_outcomes, ← renderAll_headingSpans, Report.render, Report.spans]
  simp only [renderAll_append, last, ← String.append_assoc]
  -- what is left open is what is not known by its letters: the heading and the slow passes
  exact ⟨_, _, rfl⟩

/-! ### The output of a run -/

/-- What a run with a batch writes to its output shows what the driver has said of the tasks, and
the figures that belong to it. -/
theorem printed_report {ω : Type} (a : Arguments) (s : Surroundings) (b : Batch Outcome ω)
    (pool : State Outcome ω) :
    Printed (s.hasColor && !a.settings.noColor) (b.results pool) pool.clock
      (bannerText ++ unlines [a.report s b pool]) := by
  have line (text : String) : unlines [text] = text ++ "\n" := by simp [unlines]
  obtain ⟨front, slow, report⟩ := render_eq (s.hasColor && !a.settings.noColor) (b.results pool)
    a.settings.top pool.clock s.now
  refine ⟨bannerText ++ front, slow, ?_⟩
  rw [line, Arguments.report, report]
  simp only [String.append_assoc]
  rfl

end SmokeTest.CommandLine
