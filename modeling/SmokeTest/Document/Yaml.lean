/-
Documents as YAML trees.

Main definitions:

* `Document.ofYaml? root` — the document that a tree describes;
* `Yaml.Decoder` — a reader of trees that follows aliases.

Design notes: a record is a mapping whose unknown keys are ignored and whose known keys occur at
most once. Following aliases is limited in two ways, so that a short text cannot stand for an
endless value: by the number of times it happens, for which the size of the document pays, and by
the depth of what is read. What is ignored costs nothing. Tests become JSON values when the document
is read, so that a fault in one of them which only YAML has belongs to the document.
-/
import SmokeTest.Document.Json
import SmokeTest.Yaml.Node
import SmokeTest.Yaml.Resolve

namespace SmokeTest

namespace Yaml

/-- What aliases can refer to. -/
structure Anchors where
  nodes : List (Nat × Node)

/-- A reader that knows the anchors and how many more aliases it may follow. -/
abbrev Decoder := ReaderT Anchors (StateT Nat Option)

/-- The times that aliases may be followed for each event of a document. -/
def followsPerEvent : Nat := 100

/-- Runs a reader on the tree it is meant for. -/
def Decoder.run? {α : Type} (d : Decoder α) (root : Node) : Option α :=
  ((d ⟨root.anchors⟩).run (followsPerEvent * root.events)).map Prod.fst

/-- The node without its anchor. -/
def Node.content : Node → Node
  | anchored _ n => n.content
  | n => n

/-- The node that is meant: that with the anchor, if an alias is written. -/
def follow (n : Node) : Decoder Node := do
  match n.content with
  | .ref anchor =>
    match ← get with
    | 0 => failure
    | left + 1 =>
      set left
      match (← read).nodes.reverse.lookup anchor with
      | some target => return target.content
      | none => failure
  | n => return n

/-- The tag of a type that every document knows. -/
def coreTag (name : String) : String := "tag:yaml.org,2002:" ++ name

/-- Whether a tag names a variant of its own instead of a common type. -/
def namesVariant (tag : Option String) : Bool :=
  tag.any fun t => t.toList.head? == some '!'

/-- The variant that a tag names: what follows its mark, if anything does. -/
def variantName (tag : String) : String :=
  match tag.toList with
  | '!' :: c :: rest => String.ofList (c :: rest)
  | _ => tag

/-- The text of a scalar, whatever its style and tag. -/
def decodeText (n : Node) : Decoder String := do
  match ← follow n with
  | .scalar _ text _ => return text
  | _ => failure

/-- A whole number of at most 64 bits. -/
def decodeWord (n : Node) : Decoder Nat := do
  match ← follow n with
  | .scalar tag text style =>
    if style == .plain || (style == .literal && tag == some (coreTag "int")) then
      match (natural? text.toList).filter (· ≤ Text.wordMax) with
      | some value => return value
      | none => failure
    else failure
  | _ => failure

/-- The items of a sequence; nothing at all is a sequence without items. -/
def decodeItems (n : Node) : Decoder (List Node) := do
  match ← follow n with
  | .sequence _ items => return items
  | .scalar _ "" .plain => return []
  | _ => failure

/-- The pairs of a mapping, keys as texts; nothing at all is a mapping without pairs. -/
def decodePairs (n : Node) : Decoder (List (String × Node)) := do
  match ← follow n with
  | .mapping _ pairs => pairs.mapM fun (k, v) => do return (← decodeText k, v)
  | .scalar _ "" .plain => return []
  | _ => failure

/-- Whether a node stands for an optional field that is absent. -/
def isAbsent (n : Node) : Decoder Bool := do
  match n with
  | .scalar none text .plain => return text.isEmpty || isNull text
  | .scalar (some tag) text .plain =>
    if tag == coreTag "null" then
      if isNull text then return true else failure
    else return false
  | _ => return false

/-- An optional field. -/
def decodeOptional {α : Type} (decode : Node → Decoder α) (n : Node) : Decoder (Option α) := do
  let n ← follow n
  if ← isAbsent n then return none
  return some (← decode n)

/-- The fields of a record in the order of their names; none of them may occur twice. -/
def decodeFields (names : List String) (n : Node) : Decoder (List (Option Node)) := do
  let pairs ← decodePairs n
  names.mapM fun name =>
    match pairs.filter (·.1 == name) with
    | [] => return none
    | [(_, v)] => return some v
    | _ => failure

/-- A field that has a value where it is absent. -/
def decodeField {α : Type} (default : α) (decode : Node → Decoder α) : Option Node → Decoder α
  | none => return default
  | some n => decode n

/-- A field that may be absent. -/
def decodeOptionalField {α : Type} (decode : Node → Decoder α) :
    Option Node → Decoder (Option α) :=
  decodeField none (decodeOptional decode)

/-! ### Values of tests -/

/-- The JSON value of a plain scalar, if it has one. Which number it is never matters, only that it
is one. -/
def Meaning.json? : Meaning → Option Json
  | null | notFinite => some .null
  | bool b => some (.bool b)
  | word n => some (.number (.ofNat n))
  | number => some (.number (.ofNat 0))
  | wide | text => none

/-- The JSON value of a scalar: what its tag says, if the tag names a common type; else what it
means if it is plain, and its text if it is not. -/
def scalarJson? (tag : Option String) (text : String) (style : Style) : Option Json :=
  if namesVariant tag then none
  else
    match tag with
    | none =>
      if style == .plain then
        match resolve text with
        | .text => some (.text text)
        | m => m.json?
      else some (.text text)
    | some t =>
      if t == coreTag "bool" then (bool? text).map .bool
      else if t == coreTag "int" then (wholeMeaning? text.toList).bind Meaning.json?
      else if t == coreTag "float" then (fractionMeaning? text.toList).bind Meaning.json?
      else if t == coreTag "null" then if isNull text then some .null else none
      else some (.text text)

/-- The JSON value of a node when so many levels of nesting are left. -/
def decodeJson (levels : Nat) (n : Node) : Decoder Json := do
  match levels, ← follow n with
  | _, .scalar tag text style =>
    match scalarJson? tag text style with
    | some v => return v
    | none => failure
  | levels + 1, .sequence tag items =>
    if namesVariant tag then failure
    return .array (← items.mapM (decodeJson levels))
  | levels + 1, .mapping tag pairs =>
    if namesVariant tag then failure
    let members ← pairs.mapM fun (k, v) => do
      return (some (← decodeText k), ← decodeJson levels v)
    return .object (Json.mergeMembers members)
  | _, _ => failure

end Yaml

/-! ### Records -/

open Yaml

/-- The fact that a node names: by its tag, if that names a variant, else by its text. -/
def Fact.ofYaml (n : Node) : Decoder Fact := do
  let name ←
    match ← follow n with
    | .scalar label text style =>
      if namesVariant label then
        if style == .plain && (text.isEmpty || isNull text) then
          pure (variantName (label.getD ""))
        else failure
      else pure text
    | _ => failure
  match Fact.ofName? name with
  | some f => return f
  | none => failure

/-- The values by tag. -/
def byTagOfYaml (n : Node) : Decoder (List (String × String)) := do
  let pairs ← decodePairs n
  return sortedPairs (← pairs.mapM fun (k, v) => do return (k, ← decodeText v))

/-- The variable that a node describes. -/
def Variable.ofYaml (n : Node) : Decoder Variable := do
  match ← decodeFields
      ["name", "internal_value", "inline_value", "inline_value_from_matching_tag"] n with
  | [some name, fact, inline, byTag] =>
    return {
      name := ← decodeText name
      fact := ← decodeOptionalField Fact.ofYaml fact
      inline := ← decodeOptionalField decodeText inline
      byTag := ← decodeOptionalField byTagOfYaml byTag }
  | _ => failure

/-- The setup that a node describes. -/
def Setup.ofYaml (n : Node) : Decoder Setup := do
  match ← decodeFields
      ["timeout_seconds_for_all_tests", "thread_pool_size", "system_variables"] n with
  | [timeout, poolSize, system] =>
    return {
      timeoutSeconds := ← decodeOptionalField decodeWord timeout
      poolSize := ← decodeOptionalField decodeWord poolSize
      systemVariables := ←
        decodeField [] (fun n => do (← decodeItems n).mapM Variable.ofYaml) system }
  | _ => failure

/-- The number of levels of nesting that a document may have in YAML. -/
def yamlLevels : Nat := 128

/-- The tests that a node lists; of two tests with one name the later one counts, in the place of
the first. -/
def testsOfYaml (levels : Nat) (n : Node) : Decoder (List (String × Json)) := do
  let pairs ← decodePairs n
  return Json.mergeMembers (← pairs.mapM fun (name, v) => do return (name, ← decodeJson levels v))

/-- The document that the root of a tree describes. -/
def Document.ofYamlNode (n : Node) : Decoder Document := do
  match ← decodeFields ["setup", "test"] n with
  | [setup, tests] =>
    return {
      setup := ← decodeField {} Setup.ofYaml setup
      tests := ← decodeField [] (testsOfYaml (yamlLevels - 2)) tests }
  | _ => failure

/-- The document that a tree describes; no tree at all describes the empty document. -/
def Document.ofYaml? : Option Node → Option Document
  | none => some {}
  | some root => (Document.ofYamlNode root).run? root

end SmokeTest
