/-
What the parts of a shell need of each other.

Main definitions:

* `Interpreter` — how commands and texts are run;
* `Interpreter.nestedly` — runs something as a shell of its own;
* `Interpreter.output` — what the commands of a text write;
* `Interpreter.conclude` — sets a status and does what is to be done on a failure;
* `Interpreter.script` — runs a text and ends the shell.

Design notes: words contain commands, and commands contain words. Everything about words and
built-in commands is therefore written for any interpreter, and the recursion is closed at one
place, where commands are run.
-/
import SmokeTest.Shell.Channel
import SmokeTest.Shell.Reader

namespace SmokeTest.Shell

/-- The parts of a shell that run commands, for those that need to have commands run. -/
structure Interpreter where
  /-- How deep words may be nested, and how often loops may turn. -/
  fuel : Nat
  command : Command → Run Unit
  /-- Runs a text line by line, whose lines are counted from the given number on; complaints about a
  text that cannot be read say where it is from. -/
  source : (place : String) → (first : Nat) → List Char → Run Unit

namespace Interpreter

open Run

/-- Runs something in a shell of its own, and what is to be done at its end. Only signals that are
ignored stay so. -/
def nestedly (i : Interpreter) (r : Run Unit) : Run Unit := do
  change fun s => { s with traps := s.traps.filter fun (_, action) => action.isEmpty }
  let stopped ←
    try
      r
      pure none
    catch stop => pure (some stop)
  match (← shell).traps.lookup "EXIT" with
  | some action =>
    match stopped with
    | some (.exit status) => setStatus status
    | _ => pure ()
    let status := (← shell).status
    i.source "" 1 action.toList
    setStatus status
  | none => pure ()
  match stopped with
  | some stop => throw stop
  | none => return

/-- What the commands of a text write. -/
def output (i : Interpreter) (text : String) : Run (List UInt8) := do
  let sink ← newSink
  let status ← inCopy do
    if !(← hasOption "inherit_errexit") then setOption "errexit" false
    setChannel 1 (some (.output sink))
    i.nestedly (i.source " command substitution:" (← shell).line text.toList)
  change fun s => { s with substituted := some status, status }
  drain sink

/-- The status of a shell that ends because of an unset parameter. -/
def fatalStatus : Run Nat := do
  let s ← shell
  return if s.nested || s.options.contains "errexit" then 1 else 127

/-- Does what is to be done on an event, if anything is; the status stays what it was. -/
def trapped (i : Interpreter) (name : String) : Run Unit := do
  let s ← shell
  match s.traps.lookup name with
  | some action =>
    change fun s => { s with traps := s.traps.filter (·.1 != name) }
    i.source "" s.line action.toList
    change fun s' =>
      let traps := if (s'.traps.lookup name).isSome then s'.traps else s.traps
      { s' with traps, status := s.status, pipeStatus := s.pipeStatus }
  | none => return

/-- Does what is to be done if the last command failed, which may end the shell. -/
def checkStatus (i : Interpreter) : Run Unit := do
  let s ← shell
  if s.status != 0 && !s.guarded then
    if s.options.contains "errtrace" || (s.frames.isEmpty && !s.nested) then i.trapped "ERR"
    if s.options.contains "errexit" then throw (.exit s.status)

/-- Sets the status of a command that is no pipeline. -/
def conclude (i : Interpreter) (status : Nat) : Run Unit := do
  change fun s => { s with status, pipeStatus := [status] }
  i.checkStatus

/-- Runs a text, and what is to be done at the end. -/
def script (i : Interpreter) (place : String) (text : List Char) : Run Unit := do
  let stopped ←
    try
      i.source place 1 text
      pure none
    catch stop => pure (some stop)
  let status ← match stopped with
    | some (.exit status) => pure status
    | some (.killed n) => throw (.killed n)
    | some .exhausted => throw .exhausted
    | _ => pure (← shell).status
  setStatus status
  match (← shell).traps.lookup "EXIT" with
  | some action => i.source "" 1 action.toList
  | none => pure ()
  throw (.exit status)

end Interpreter

end SmokeTest.Shell
