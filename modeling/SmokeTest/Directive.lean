/-
Directives: the lines of a source that decide what is run.

    #:+: echo always            marker (first word of the line)
    #:-DEV:-SIT: ./check.sh     marker that excludes two tags
    #=DEV=Hello from DEV        assignment of a value to the tag DEV
    #@THREAD_POOL_SIZE@3        setting of the whole run

Main definitions:

* `Directive` — these three, and the four rules that a test of a document can carry;
* `Directive.parse` — the directive of a line, none for an ordinary line;
* `commandOf` — the command that follows the marker of a line.

Design notes: a setting begins `#@`, an assignment `#=`, and the marker is a word that begins `#:`,
so at most one of the three readings applies and the order in which they are tried is free.
-/
import SmokeTest.Text.Blank
import SmokeTest.Text.Case
import SmokeTest.Text.Split

namespace SmokeTest

/-- A line or rule that decides what is run. -/
inductive Directive
  /-- Selected for every tag. -/
  | always
  /-- Selected for the listed tags only. -/
  | ifTagIn (tags : List String)
  /-- Selected for every tag but the listed ones. -/
  | unlessTagIn (tags : List String)
  /-- Never selected. -/
  | never
  /-- The first word of a text line, in small letters; its pieces decide. -/
  | marker (token : String)
  /-- A value for the runs of one tag, carried to the lines that follow. -/
  | assignment (tag value : String)
  /-- A setting of the whole run. -/
  | setting (name value : String)
  deriving DecidableEq, Repr, Inhabited

namespace Directive

open Text

/-- The number of bytes of the text in UTF-8. -/
def byteLength : List Char → Nat
  | [] => 0
  | c :: rest => c.utf8Size + byteLength rest

/-- The bytes of the shortest line that can have a key and a value. -/
def shortestEntry : Nat := 5

/-- Reads `#`, the sentinel, a key, the sentinel and a value. The key is not empty, and the value,
which is the rest of the line, has a character other than the sentinel. -/
def keyValue? (sentinel : Char) (line : List Char) : Option (List Char × List Char) :=
  if byteLength line < shortestEntry then none
  else
    match dropPrefix? ['#', sentinel] line with
    | none => none
    | some rest =>
      match cut sentinel rest with
      | none => none
      | some (key, value) =>
        if key.isEmpty || value.all (· == sentinel) then none else some (key, value)

/-- The first word of the line in small letters, if it begins `#:`. -/
def markerToken? (line : List Char) : Option (List Char) :=
  let token := lower (firstWord line)
  if startsWith ['#', ':'] token then some token else none

/-- The directive of a line, given as a list of characters. -/
def parseChars (line : List Char) : Option Directive :=
  match keyValue? '@' line with
  | some (name, value) => some (.setting (String.ofList name) (String.ofList value))
  | none =>
    match keyValue? '=' line with
    | some (tag, value) => some (.assignment (String.ofList tag) (String.ofList value))
    | none => (markerToken? line).map fun token => .marker (String.ofList token)

/-- The directive of a line; none for an ordinary line. -/
def parse (line : String) : Option Directive :=
  parseChars line.toList

/-- The line that writes an assignment or a setting. -/
def assignmentLine (sentinel : Char) (key value : String) : String :=
  String.ofList (['#', sentinel] ++ key.toList ++ [sentinel] ++ value.toList)

/-- The text after the first space of a line or, in a line without spaces, after its first tab;
empty for a line that has neither. -/
def afterFirstSpace (line : List Char) : List Char :=
  match cut ' ' line with
  | some (_, rest) => rest
  | none =>
    match cut '\t' line with
    | some (_, rest) => rest
    | none => []

/-- The text of a line after its first space or, failing that, its first tab. -/
def commandOf (line : String) : String :=
  String.ofList (afterFirstSpace line.toList)

end Directive

end SmokeTest
