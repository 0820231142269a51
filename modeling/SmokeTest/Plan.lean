/-
Plans: what is to be run, and under which limits.

Main definitions:

* `Context` — the tag of a run, its limits, and the value that its source assigns to the tag;
* `Plan` — a context and the probes to run in it;
* `Tag` — a tag that a run can be asked for;
* `Options` — what a run is given besides its source.
-/
import SmokeTest.Filter
import SmokeTest.Probe

namespace SmokeTest

/-- The number of workers where nothing else is said. -/
def defaultPoolSize : Nat := 5

/-- The seconds that a batch may take where nothing else is said. -/
def defaultTimeoutSeconds : Nat := 600

/-- What the names of the variables of text sources begin with where nothing else is said. -/
def defaultNameStart : String := "ST_"

/-- The platform that commands are told they run on. -/
def osName : String := "unix"

/-- The version of this program. -/
def version : String := "0.1.0"

/-- The names of the variables that commands of text sources are given. -/
structure VariableNames where
  /-- What the names have in common. -/
  start : String := defaultNameStart
  deriving DecidableEq, Repr, Inhabited

namespace VariableNames

/-- Names the tag of the run. -/
def tag (n : VariableNames) : String := n.start ++ "TAG"

/-- Names the value assigned to the tag. -/
def value (n : VariableNames) : String := n.start ++ "VALUE"

/-- Names the platform. -/
def os (n : VariableNames) : String := n.start ++ "OS"

/-- Names the line of the command. -/
def line (n : VariableNames) : String := n.start ++ "LINE"

/-- All four names. -/
def all (n : VariableNames) : List String := [n.tag, n.value, n.os, n.line]

end VariableNames

/-- The settings of one run. -/
structure Context where
  tag : String
  poolSize : Nat
  timeoutSeconds : Nat
  /-- The last value that the source assigns to the tag. -/
  value : Option String := none
  deriving DecidableEq, Repr, Inhabited

/-- The probes of one run and the settings they run under. -/
structure Plan where
  context : Context
  probes : List Probe
  deriving DecidableEq, Repr, Inhabited

/-- A tag that a run can be asked for. -/
@[ext]
structure Tag where
  text : String
  named : text.isEmpty = false := by exact Eq.refl false
  /-- The tag has no blanks around it. -/
  trimmed : text = text.trimBlank := by rfl
  deriving Repr

namespace Tag

instance : Coe Tag String := ⟨Tag.text⟩

/-- The tag that is left of a text without the blanks around it; none if nothing is left. -/
def ofText? (given : String) : Option Tag :=
  if empty : given.trimBlank = "" then none
  else
    some {
      text := given.trimBlank
      named := String.isEmpty_trimBlank empty
      trimmed := given.bare_trimBlank }

end Tag

/-- What a run is given besides its source. -/
structure Options where
  tag : Tag
  filter : Option Filter := none
  names : VariableNames := {}
  /-- The number of workers, unless the source says otherwise. -/
  poolSize : Nat := defaultPoolSize
  /-- The seconds for the whole batch, unless the source says otherwise. -/
  timeoutSeconds : Nat := defaultTimeoutSeconds

namespace Options

/-- The options of a run under a tag, everything else as usual. -/
def ofTag (tag : String) : Except Error Options :=
  match Tag.ofText? tag with
  | some tag => .ok { tag }
  | none => .error .emptyTag

/-- Whether the filter, if there is one, lets a command pass. -/
def accepts (o : Options) (id command : String) : Bool :=
  o.filter.all fun f => f.accepts id command

end Options

end SmokeTest
