/-
Documents: the sources with a setup and named tests.

    setup:
      thread_pool_size: 4
      system_variables:
        - name: GREETING
          inline_value: hello
    test:
      ping:
        cmd: "curl -s $URL"
        run:
          if_tag_matches: [dev, sit]

Design notes: the setup is read when the document is read, whereas each test keeps its value until
it is its turn, so that the first faulty test decides the error. A document written in JSON and the
same document written in YAML have the same `Document`.
-/
import SmokeTest.Directive
import SmokeTest.Json.Value

namespace SmokeTest

/-- The facts of a run that a variable can show. -/
inductive Fact
  | version
  | configFile
  | commandLine
  | timeout
  | poolSize
  | id
  | os
  | tag
  deriving DecidableEq, Repr, Inhabited

/-- The name of a fact in documents. -/
def Fact.name : Fact → String
  | version => "VERSION"
  | configFile => "CONFIG_FILE"
  | commandLine => "CMD_LINE"
  | timeout => "TIMEOUT"
  | poolSize => "THREAD_POOL_SIZE"
  | id => "ID"
  | os => "OS"
  | tag => "TAG"

/-- All facts. -/
def Fact.all : List Fact :=
  [version, configFile, commandLine, timeout, poolSize, id, os, tag]

/-- The fact with the given name. -/
def Fact.ofName? (name : String) : Option Fact :=
  all.find? fun f => f.name = name

/-- A variable of the setup, with up to three places that its value can come from. -/
structure Variable where
  name : String
  fact : Option Fact := none
  inline : Option String := none
  /-- Values by tag, in the order of the tags. -/
  byTag : Option (List (String × String)) := none
  deriving DecidableEq, Repr, Inhabited

/-- The settings that hold for all tests. -/
structure Setup where
  timeoutSeconds : Option Nat := none
  poolSize : Option Nat := none
  systemVariables : List Variable := []
  deriving DecidableEq, Repr, Inhabited

/-- A setup and the tests with their names, in the order in which they are written. -/
structure Document where
  setup : Setup := {}
  tests : List (String × Json) := []
  deriving Repr, Inhabited

/-- The rules that a test can carry; several may be present. -/
structure Rules where
  always : Bool := false
  ifTag : Option (List String) := none
  unlessTag : Option (List String) := none
  deriving DecidableEq, Repr, Inhabited

/-- The rule that counts: the first one present, in the order of the fields; a test without rules
never runs. -/
def Rules.directive (r : Rules) : Directive :=
  if r.always then .always
  else
    match r.ifTag, r.unlessTag with
    | some tags, _ => .ifTagIn tags
    | none, some tags => .unlessTagIn tags
    | none, none => .never

/-- A test: its command, if it has one, and its rules. -/
structure Entry where
  command : Option String := none
  rules : Rules := {}
  deriving DecidableEq, Repr, Inhabited

end SmokeTest
