/-
From a document to the plan of a run.

Tests are taken in the order in which they are written. Each has to be well formed, selected or not;
a selected test with a command that the filter lets pass becomes a probe with all variables.

Main definitions:

* `Entry.probe?` — what one test contributes;
* `Document.plan` — the plan of a document;
* `Plan.ofDocument` — the plan of a text in one of the formats of documents.
-/
import SmokeTest.Document.Variables
import SmokeTest.Document.Yaml
import SmokeTest.Source.Format

namespace SmokeTest

/-- What a test contributes: nothing if it is not selected, has no command or is filtered out. The
filter sees the name and the command as they are written. -/
def Entry.probe? (e : Entry) (o : Options) (values : List (String × VariableValue))
    (name : String) : Except Error (Option Probe) :=
  let command := e.command.getD ""
  if !e.rules.directive.selects o.tag || command.isAllBlank || !o.accepts name command then .ok none
  else
    match Probe.ofCommand name command with
    | .error fault => .error fault
    | .ok p => .ok (some (p.withOverrides (values.map fun (n, v) => (n, v.forId p.id))))

/-- The probes of the tests in the list; the first faulty test decides the error. -/
def probesOf (o : Options) (values : List (String × VariableValue)) :
    List (String × Json) → Except Error (List Probe)
  | [] => .ok []
  | (name, v) :: rest =>
    match Entry.ofJson? v with
    | none => .error .badJson
    | some e =>
      match e.probe? o values name with
      | .error fault => .error fault
      | .ok found =>
        match probesOf o values rest with
        | .error fault => .error fault
        | .ok probes => .ok (found.toList ++ probes)

/-- The plan of a document. -/
def Document.plan (d : Document) (o : Options) (i : Invocation) : Except Error Plan :=
  let context := d.setup.context o
  match probesOf o (d.setup.resolve context i) d.tests with
  | .ok probes => .ok { context, probes }
  | .error fault => .error fault

/-- The document that a text writes. -/
def Document.parse (format : Format) (text : String) : Except Error Document :=
  match format with
  | .yaml =>
    match (Yaml.Node.read? text).bind Document.ofYaml? with
    | some d => .ok d
    | none => .error .badYaml
  | _ =>
    match (Json.read? text).bind Document.ofJson? with
    | some d => .ok d
    | none => .error .badJson

/-- The plan of a text that writes a document. -/
def Plan.ofDocument (o : Options) (i : Invocation) (format : Format) (text : String) :
    Except Error Plan :=
  match Document.parse format text with
  | .ok d => d.plan o i
  | .error fault => .error fault

end SmokeTest
