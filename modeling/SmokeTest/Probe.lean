/-
A probe is one command to run, under an id that is unique in its batch, with the environment
variables it adds.

Design notes: a probe carries the proofs that its id is not empty and that the blanks around its id
and its command are gone, so that whoever has a probe need not ask.
-/
import SmokeTest.Error
import SmokeTest.Overrides
import SmokeTest.Text.Blank

namespace SmokeTest

/-- One command to run. -/
@[ext]
structure Probe where
  id : String
  command : String
  overrides : Overrides := .empty
  named : id.isEmpty = false := by exact Eq.refl false
  /-- The id has no blanks around it. -/
  trimmed : id = id.trimBlank := by rfl
  /-- The command has no blanks around it. -/
  bare : command = command.trimBlank := by rfl
  deriving DecidableEq, Repr

namespace Probe

/-- The probe with the given id and command, both without the blanks around them. -/
def ofCommand (id command : String) : Except Error Probe :=
  if empty : id.trimBlank = "" then .error .emptyId
  else
    .ok {
      id := id.trimBlank
      command := command.trimBlank
      named := String.isEmpty_trimBlank empty
      trimmed := id.bare_trimBlank
      bare := command.bare_trimBlank }

/-- The probe with more environment variables, set in order. -/
def withOverrides (p : Probe) (pairs : List (String × String)) : Probe :=
  { p with overrides := p.overrides.insertAll pairs }

/-- How a probe is named in messages. -/
def summary (p : Probe) : String :=
  s!"id [{p.id}], cmd [{p.command}]"

end Probe

end SmokeTest
