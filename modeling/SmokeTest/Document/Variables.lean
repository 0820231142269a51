/-
The values that the variables of a setup have in a run.

A variable shows a fact of the run if it names one, else its inline value, else the value that it
lists for the tag of the run; a variable without a value is not set.

Main definitions:

* `tagValue? tag pairs` — the value listed for a tag, the last one if there are several;
* `Setup.resolve` — the variables that have a value, in order;
* `Setup.listedValue?` — the value for the tag that is reported as the value of the run.
-/
import SmokeTest.Document.Basic
import SmokeTest.Plan
import SmokeTest.Selection
import SmokeTest.Text.Numeral

namespace SmokeTest

/-- What is known of the call of the program. -/
structure Invocation where
  configFile : String := ""
  commandLine : String := ""
  deriving DecidableEq, Repr, Inhabited

/-- The value of a variable, up to the id of the test. -/
inductive VariableValue
  | fixed (value : String)
  | id
  deriving DecidableEq, Repr, Inhabited

/-- The value for a test with the given id. -/
def VariableValue.forId (v : VariableValue) (id : String) : String :=
  match v with
  | fixed value => value
  | .id => id

/-- The value listed for a tag, in any letter case; the last one if there are several. -/
def tagValue? (tag : String) (pairs : List (String × String)) : Option String :=
  pairs.foldl (fun current (key, value) => (Directive.assignment key value).carry tag current) none

/-- What a fact is in a run. -/
def Fact.value (f : Fact) (c : Context) (i : Invocation) : VariableValue :=
  match f with
  | .version => .fixed SmokeTest.version
  | .configFile => .fixed i.configFile
  | .commandLine => .fixed i.commandLine
  | .timeout => .fixed (Text.decimal c.timeoutSeconds)
  | .poolSize => .fixed (Text.decimal c.poolSize)
  | .id => .id
  | .os => .fixed osName
  | .tag => .fixed c.tag

/-- The value of a variable, if it has one. -/
def Variable.value? (v : Variable) (c : Context) (i : Invocation) : Option VariableValue :=
  match v.fact, v.inline, v.byTag with
  | some f, _, _ => some (f.value c i)
  | none, some value, _ => some (.fixed value)
  | none, none, some pairs => (tagValue? c.tag pairs).map .fixed
  | none, none, none => none

/-- The variables that have a value, with their values. -/
def Setup.resolve (s : Setup) (c : Context) (i : Invocation) : List (String × VariableValue) :=
  s.systemVariables.filterMap fun v => (v.value? c i).map fun value => (v.name, value)

/-- The value that the last variable to list one lists for the tag, whether or not that variable
takes its value from there. -/
def Setup.listedValue? (s : Setup) (tag : String) : Option String :=
  s.systemVariables.foldl (fun current v =>
    match v.byTag with
    | some pairs => (tagValue? tag pairs).or current
    | none => current) none

/-- The settings of a run of a document under the options. -/
def Setup.context (s : Setup) (o : Options) : Context where
  tag := o.tag
  poolSize := s.poolSize.getD o.poolSize
  timeoutSeconds := s.timeoutSeconds.getD o.timeoutSeconds
  value := s.listedValue? o.tag

end SmokeTest
