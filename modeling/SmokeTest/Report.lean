/-
The report of a finished batch.

It has a heading, the outcomes, the slowest passes, the failures, and a line with the figures.
Colour is only decoration.

Main definitions:

* `Report` — the figures of a batch and the facts of the run;
* `Report.spans` — the report as pieces of text;
* `Report.render color` — its text.
-/
import SmokeTest.Plan
import SmokeTest.Summary
import SmokeTest.Text.Ansi

namespace SmokeTest

open Text (Color Span)

/-- The name of this program. -/
def appName : String := "SmokeRunner"

/-- What is reported of a finished batch. -/
structure Report where
  summary : Summary
  /-- The time of the whole run in nanoseconds. -/
  elapsed : Nat
  /-- The local time at which the run started, as it is shown. -/
  started : String
  deriving Repr, Inhabited

/-- The colour of a verdict. -/
def Verdict.color : Verdict → Color
  | pass => .green
  | fail => .red
  | execError => .magenta
  | userError => .yellow

namespace Report

/-- A text with blanks behind it, up to a width. -/
def padRight (width : Nat) (s : String) : String :=
  s ++ String.ofList (List.replicate (width - s.length) ' ')

/-- A text with blanks before it, up to a width. -/
def padLeft (width : Nat) (s : String) : String :=
  String.ofList (List.replicate (width - s.length) ' ') ++ s

/-- The word of a verdict, in its colour and ten characters wide. -/
def labelSpan (v : Verdict) : Span :=
  .bold (some v.color) (padRight 10 v.label)

/-- The line of an outcome. -/
def outcomeSpans (o : Outcome) : List Span :=
  [labelSpan o.verdict, .plain s!" {o.message}\n"]

/-- A heading on a line of its own, after a blank line. -/
def headingSpans (text : String) : List Span :=
  [.plain "\n", .bold none text, .plain "\n"]

/-- The line of a slow pass. -/
def slowSpan (o : Outcome) : Span :=
  .plain s!"  {padLeft 8 (Text.decimal o.millis)} ms  [{o.id}]\n"

/-- The words of the line with the figures. -/
def figures (r : Report) : String :=
  let passed := Text.decimal r.summary.passedCount
  let failed := Text.decimal r.summary.failedCount
  let ms := Text.decimal (r.elapsed / nanosPerMilli)
  s!"SUMM: {passed} pass(es) - {failed} failure(s) - elapsed {ms} ms"

/-- The slowest passes, if there are any. -/
def slowestSpans (slowest : List Outcome) : List Span :=
  if slowest.isEmpty then []
  else headingSpans s!"Slowest {Text.decimal slowest.length} pass(es):" ++ slowest.map slowSpan

/-- The failures, if there are any. -/
def failureSpans (failures : List Outcome) : List Span :=
  if failures.isEmpty then [] else headingSpans "Failures:" ++ failures.flatMap outcomeSpans

/-- The report as pieces of text. -/
def spans (r : Report) : List Span :=
  let s := r.summary
  let figureColor := if s.failedCount = 0 then Color.green else .red
  [.bold none appName, .plain s!" v{version} - run started {r.started}\n"] ++
    headingSpans "Results:" ++ s.outcomes.flatMap outcomeSpans ++
    slowestSpans s.slowest ++ failureSpans s.failures ++
    [.plain "\n", .bold (some figureColor) r.figures, .plain "\n"]

/-- The text of the report. -/
def render (color : Bool) (r : Report) : String :=
  Span.renderAll color r.spans

end Report

end SmokeTest
