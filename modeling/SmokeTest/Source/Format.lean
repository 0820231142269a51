/-
The formats of sources, told apart by the extension of a path.

Design notes: a path is read as names between slashes. Empty names and single dots count for
nothing, so `a.json/.` has the name `a.json`; a path that ends in `..` has no name of its own.
-/
import SmokeTest.Text.Case
import SmokeTest.Text.Split

namespace SmokeTest

/-- The formats of sources. -/
inductive Format
  /-- Lines with directives. -/
  | text
  | json
  | yaml
  deriving DecidableEq, Repr, Inhabited

namespace Format

open Text

/-- How a format is named. -/
def name : Format → String
  | text => "text"
  | json => "json"
  | yaml => "yaml"

/-- Whether a source of the format is a document with a setup and tests. -/
def isDeclarative (f : Format) : Bool :=
  f != text

/-- The last name of a path. -/
def fileName? (path : List Char) : Option (List Char) :=
  match ((pieces '/' path).filter fun p => !p.isEmpty && p != ['.']).getLast? with
  | some ['.', '.'] => none
  | last => last

/-- What follows the last dot of a name, unless the dot is its first character. -/
def extension? (name : List Char) : Option (List Char) :=
  let tail := (name.reverse.takeWhile (· != '.')).reverse
  if tail.length + 1 < name.length then some tail else none

/-- The format of the source at a path: `.json` is JSON, `.yaml` and `.yml` are YAML in any letter
case, and everything else is text. -/
def ofPath (path : String) : Format :=
  match (fileName? path.toList).bind extension? with
  | some ext =>
    match String.ofList (lower ext) with
    | "json" => json
    | "yaml" | "yml" => yaml
    | _ => text
  | none => text

end Format

end SmokeTest
