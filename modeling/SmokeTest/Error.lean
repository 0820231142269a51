/-
What can go wrong before a batch has results.

Design notes: an error is its cause. The wording lives in `Error.message` alone, so that a law about
when an error arises never mentions its text.
-/

namespace SmokeTest

/-- The causes that abort loading, scanning or running a batch. -/
inductive Error
  /-- The selector tag is blank. -/
  | emptyTag
  /-- A probe's id is empty. -/
  | emptyId
  /-- Two probes of a batch share an id. -/
  | duplicateId (id : String)
  /-- The filter text is empty. -/
  | emptyFilter
  /-- The filter text is a prefix and nothing else. -/
  | bareFilter (text : String)
  /-- The pattern of the filter text is no regular expression. -/
  | badPattern (text : String)
  /-- A batch needs at least one worker. -/
  | noWorkers
  /-- A batch needs at least one second. -/
  | noTime
  /-- A setting line carries a value that is no positive number. -/
  | badSetting (name value : String) (line : Nat)
  /-- The source cannot be read as text. -/
  | unreadable
  /-- The document is not JSON, or not of the expected form. -/
  | badJson
  /-- The document is not YAML, or not of the expected form. -/
  | badYaml
  deriving DecidableEq, Repr

namespace Error

/-- The families of errors that callers tell apart. -/
inductive Kind
  | argument
  | setting
  | input
  | json
  | yaml
  deriving DecidableEq, Repr

/-- The family that an error belongs to. -/
def kind : Error → Kind
  | emptyTag | emptyId | duplicateId _ | emptyFilter | bareFilter _ | badPattern _ | noWorkers
  | noTime => .argument
  | badSetting .. => .setting
  | unreadable => .input
  | badJson => .json
  | badYaml => .yaml

/-- The text that is shown for an error. -/
def message : Error → String
  | emptyTag => "Invalid argument: tag cannot be empty"
  | emptyId => "Invalid argument: unit id cannot be empty"
  | duplicateId id => s!"Invalid argument: duplicate unit id '{id}'"
  | emptyFilter => "Invalid argument: filter text cannot be empty"
  | bareFilter text =>
    s!"Invalid argument: filter [{text}] has nothing to match after its prefix"
  | badPattern text => s!"Invalid argument: filter [{text}] is not a valid regex"
  | noWorkers => "Invalid argument: pool_size must be > 0"
  | noTime => "Invalid argument: timeout_seconds must be > 0"
  | badSetting name value line => s!"Invalid setting '{name}' on line {line}: '{value}'"
  | unreadable => "I/O error"
  | badJson => "JSON error"
  | badYaml => "YAML error"

end Error

end SmokeTest
