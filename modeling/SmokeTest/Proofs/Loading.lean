/-
Loading a source: reading its text, and what the text amounts to.

* `Plan.ofText` — the plan of a text in one of the formats;
* `Plan.load_eq` — a source is loaded by reading its text and making the plan of it;
* `Plan.ofText_ne_unreadable` — a text that has been read is never refused as one that cannot be
  read.
-/
import SmokeTest.Proofs.Document.Tests
import SmokeTest.Proofs.Scan.Acceptance
import SmokeTest.Source.Load

namespace SmokeTest

/-- A list of tests is refused for a test that cannot be read or for one without a name. -/
theorem probesOf_error {o : Options} {values : List (String × VariableValue)}
    {tests : List (String × Json)} {fault : Error}
    (failed : probesOf o values tests = .error fault) : fault = .badJson ∨ fault = .emptyId := by
  obtain ⟨front, t, back, -, own, -⟩ := probesOf_eq_error_iff.mp failed
  rw [probeOf?] at own
  split at own
  · cases own
    exact .inl rfl
  · exact .inr (Entry.probe?_eq_error_iff.mp own).1

theorem Document.parse_error {format : Format} {text : String} {fault : Error}
    (failed : parse format text = .error fault) : fault = .badJson ∨ fault = .badYaml := by
  rw [parse.eq_def] at failed
  split at failed
  · split at failed <;> cases failed
    exact .inr rfl
  · split at failed <;> cases failed
    exact .inl rfl

namespace Plan

/-- The plan of a text in one of the formats. -/
def ofText (format : Format) (o : Options) (i : Invocation) (text : String) : Except Error Plan :=
  if format.isDeclarative then ofDocument o i format text else ofLines o (Line.ofText text)

theorem load_eq (t : FileTree) (start : Location) (path : String) (o : Options) (i : Invocation) :
    load t start path o i =
      match t.readText? start path with
      | some text => ofText (.ofPath path) o i text
      | none => .error .unreadable := by
  rw [load, loadDocument]
  cases declarative : (Format.ofPath path).isDeclarative <;>
    cases t.readText? start path <;> simp [ofText, declarative]

theorem ofDocument_ne_unreadable {format : Format} {o : Options} {i : Invocation} {text : String} :
    ofDocument o i format text ≠ .error .unreadable := by
  intro failed
  rw [ofDocument] at failed
  split at failed
  · rcases probesOf_error (Document.plan_eq_error_iff.mp failed) with same | same <;> cases same
  · next refused =>
    cases failed
    rcases Document.parse_error refused with same | same <;> cases same

theorem ofLines_ne_unreadable {o : Options} {lines : List Line} :
    ofLines o lines ≠ .error .unreadable := by
  intro failed
  obtain ⟨_, _, _, _, _, same⟩ := Scan.steps_error (ofLines_error failed)
  cases same

/-- Only a text that cannot be read is refused as such. -/
theorem ofText_ne_unreadable {format : Format} {o : Options} {i : Invocation} {text : String} :
    ofText format o i text ≠ .error .unreadable := by
  rw [ofText]
  split
  · exact ofDocument_ne_unreadable
  · exact ofLines_ne_unreadable

end Plan

end SmokeTest
