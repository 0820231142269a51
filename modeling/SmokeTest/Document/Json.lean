/-
Documents and tests as JSON values.

Main definitions:

* `Entry.ofJson? v` — the test that a value describes;
* `Document.ofJson? v` — the document that a value describes.

Design notes: a record is an object, whose unknown members are ignored and whose known members occur
at most once, or an array of its fields in order. `null` stands for an optional field that is
absent. Members that are ignored may hold what could not be stored; the depth of the rest is
limited.
-/
import SmokeTest.Document.Basic
import SmokeTest.Json.Reader
import SmokeTest.Overrides
import SmokeTest.Text.Numeral

namespace SmokeTest

namespace Json

/-- The text of a string. -/
def asText? : Json → Option String
  | string s => s
  | _ => none

/-- A whole number of at most 64 bits. -/
def asWord? : Json → Option Nat
  | number n => n.toNat? Text.wordMax
  | _ => none

/-- An optional field: none for `null`. -/
def asOptional? {α : Type} (read : Json → Option α) : Json → Option (Option α)
  | null => some none
  | v => (read v).map some

/-- An array of texts. -/
def asTexts? : Json → Option (List String)
  | array items => items.mapM asText?
  | _ => none

/-- The fields of a record, in the order of their names: those of an object by name, or those of an
array by position. None if a name is missing from the text of an object, if a field occurs twice, or
if an array has more items than there are fields. -/
def fields? (names : List String) : Json → Option (Bool × List (Option Json))
  | object members =>
    if members.all (fun m => m.1.isSome) &&
        names.all (fun name => (members.filter fun m => m.1 == some name).length ≤ 1) then
      some (true, names.map fun name => (members.find? fun m => m.1 == some name).map Prod.snd)
    else none
  | array items =>
    if items.length ≤ names.length then
      some (false, names.zipIdx.map fun (_, i) => items[i]?)
    else none
  | _ => none

/-- A field that may be absent in an object, but not in an array. -/
def optionalField? {α : Type} (named : Bool) (read : Json → Option α) :
    Option Json → Option (Option α)
  | none => if named then some none else none
  | some v => asOptional? read v

/-- A field that has a value where it is absent. -/
def defaultField? {α : Type} (default : α) (read : Json → Option α) : Option Json → Option α
  | none => some default
  | some v => read v

end Json

open Json

/-- The fact that a value names: a text, or an object with that text as the name of a `null`. -/
def Fact.ofJson? : Json → Option Fact
  | .string (some name) => ofName? name
  | .object [(some name, .null)] => ofName? name
  | _ => none

/-- The values by tag that an object lists, in the order of the tags; of two values of one tag the
later one counts. -/
def sortedPairs (pairs : List (String × String)) : List (String × String) :=
  (Overrides.ofList pairs).entries

/-- The values by tag. -/
def byTagOfJson? : Json → Option (List (String × String))
  | .object members => do
    let pairs ← members.mapM fun (name, v) => do return (← name, ← v.asText?)
    return sortedPairs pairs
  | _ => none

/-- The variable that a value describes. -/
def Variable.ofJson? (v : Json) : Option Variable := do
  let (named, fields) ← v.fields?
    ["name", "internal_value", "inline_value", "inline_value_from_matching_tag"]
  match fields with
  | [name, fact, inline, byTag] =>
    return {
      name := ← (← name).asText?
      fact := ← optionalField? named Fact.ofJson? fact
      inline := ← optionalField? named asText? inline
      byTag := ← optionalField? named byTagOfJson? byTag }
  | _ => none

/-- The variables that a value lists. -/
def variablesOfJson? : Json → Option (List Variable)
  | .array items => items.mapM Variable.ofJson?
  | _ => none

/-- The setup that a value describes. -/
def Setup.ofJson? (v : Json) : Option Setup := do
  let (named, fields) ← v.fields?
    ["timeout_seconds_for_all_tests", "thread_pool_size", "system_variables"]
  match fields with
  | [timeout, poolSize, system] =>
    return {
      timeoutSeconds := ← optionalField? named asWord? timeout
      poolSize := ← optionalField? named asWord? poolSize
      systemVariables := ← defaultField? [] variablesOfJson? system }
  | _ => none

/-- The number of levels of nesting that a document may have. -/
def documentLevels : Nat := 127

/-- The tests that an object lists; of two tests with one name the later one counts, in the place of
the first. -/
def testsOfJson? (levels : Nat) : Json → Option (List (String × Json))
  | .object members =>
    if membersStorable levels members then
      let named := members.filterMap fun (name, v) => name.map fun n => (n, v.merged)
      some (mergeMembers named)
    else none
  | _ => none

/-- The document that a value describes. -/
def Document.ofJson? (v : Json) : Option Document := do
  let (_, fields) ← v.fields? ["setup", "test"]
  match fields with
  | [setup, tests] =>
    return {
      setup := ← defaultField? {} Setup.ofJson? setup
      tests := ← defaultField? [] (testsOfJson? (documentLevels - 2)) tests }
  | _ => none

/-- The rules that a value describes. -/
def Rules.ofJson? (v : Json) : Option Rules := do
  let (named, fields) ← v.fields? ["always", "if_tag_matches", "unless_tag_matches", "never"]
  match fields with
  | [always, ifTag, unlessTag, never] =>
    let present ← optionalField? named some always
    let _ ← optionalField? named some never
    return {
      always := present.isSome
      ifTag := ← optionalField? named asTexts? ifTag
      unlessTag := ← optionalField? named asTexts? unlessTag }
  | _ => none

/-- The test that a value describes. -/
def Entry.ofJson? (v : Json) : Option Entry := do
  let (named, fields) ← v.fields? ["cmd", "run"]
  match fields with
  | [command, rules] =>
    return {
      command := ← optionalField? named asText? command
      rules := ← defaultField? {} Rules.ofJson? rules }
  | _ => none

end SmokeTest
