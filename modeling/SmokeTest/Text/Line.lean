/-
The lines of a text, numbered from 1.

A line ends before `\n` or before `\r\n`; a text that ends in a line terminator has no empty line
after it, and a `\r` that no `\n` follows belongs to its line.
-/

namespace SmokeTest

/-- One line of a text source. -/
structure Line where
  /-- Lines are counted from 1. -/
  number : Nat
  text : String
  deriving DecidableEq, Repr, Inhabited

namespace Line

/-- The line without the carriage return of its terminator. -/
def dropReturn (s : List Char) : List Char :=
  match s.reverse with
  | '\r' :: front => front.reverse
  | _ => s

/-- Cuts a text after every `\n`; `line` is the line that has been read so far, reversed. -/
def splitFrom (line : List Char) : List Char → List (List Char)
  | [] => if line.isEmpty then [] else [line.reverse]
  | '\n' :: rest => dropReturn line.reverse :: splitFrom [] rest
  | c :: rest => splitFrom (c :: line) rest

/-- The lines of a text, without their terminators. -/
def split (s : List Char) : List (List Char) :=
  splitFrom [] s

/-- The lines of a text with their numbers. -/
def ofText (s : String) : List Line :=
  ((split s.toList).zipIdx 1).map fun (text, number) => ⟨number, String.ofList text⟩

end Line

end SmokeTest
