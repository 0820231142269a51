/-
How commands are found by their names.

Main definitions:

* `Run.utilityName?` — the command of the system that a name means;
* `Run.utility` — runs such a command;
* `Run.kindOf` — whether a name means a keyword, a function, a builtin or a command of the system.
-/
import SmokeTest.Shell.Builtin
import SmokeTest.Shell.Utility

namespace SmokeTest.Shell.Run

/-- The name of a command that is found in the system. -/
def utilityName? (name : String) : Run (Option String) := do
  let known (n : String) : Bool :=
    (Utility.find? n).isSome || ["bash", "sh", "env", "xargs", "timeout", "nohup", "kill", "which",
      "echo", "printf", "true", "false", "test", "[", "pwd"].contains n
  if name.toList.contains '/' then
    let last := String.ofList (((Text.pieces '/' name.toList).getLast?).getD [])
    return if (name == "/bin/" ++ last || name == "/usr/bin/" ++ last) && known last then some last
      else none
  let path := (← textOf? "PATH").getD ""
  let places := (Text.pieces ':' path.toList).map String.ofList
  return if (places.contains "/usr/bin" || places.contains "/bin") && known name then some name
    else none

/-- Says that a command is not there. -/
def notFound (name : String) : Run Nat := do
  if name.toList.contains '/' then
    match (← outside).files.find? (← shell).directory name with
    | some .directory =>
      complain s!"{name}: Is a directory"
      return 126
    | some _ =>
      complain s!"{name}: Permission denied"
      return 126
    | none =>
      complain s!"{name}: No such file or directory"
      return 127
  complain s!"{name}: command not found"
  return 127

/-- Runs a command of the system. -/
def utility (name : String) (arguments : List String) : Run (Option Nat) := do
  match (← utilityName? name).bind fun n => (Utility.find? n).map fun f => (n, f) with
  | none => return none
  | some (n, f) =>
    let e := f {
      name := n, arguments, input := ← pending 0, directory := (← shell).directory
      files := (← outside).files, environment := ← environment }
    if e.reads then leave 0 []
    match e.files with
    | some files => changeOutside fun o => { o with files }
    | none => pure ()
    changeOutside fun o => { o with clock := o.clock + e.took }
    let _ ← write 2 e.errors
    match ← channel? 1 with
    | some (.input _) | none => if !e.output.isEmpty then return some 1
    | some c => writeTo c e.output
    return some e.status

/-- The words that are part of the language. -/
def keywords : List String :=
  ["if", "then", "else", "elif", "fi", "case", "esac", "for", "select", "while", "until", "do",
    "done", "in", "function", "time", "\x7b", "\x7d", "!", "[[", "]]", "coproc"]

/-- What a command would be found as. -/
def kindOf (name : String) : Run (Option String) := do
  if keywords.contains name then return some "keyword"
  if ((← shell).functions.lookup name).isSome then return some "function"
  if (Builtin.find? name).isSome ||
      ["eval", "source", ".", "command", "builtin", "exec", "kill", "wait", "type"].contains
        name then
    return some "builtin"
  return if (← utilityName? name).isSome then some "file" else none

/-- Says what commands would be found as. -/
def typeOf (arguments : List String) : Run Nat := do
  let short := arguments.contains "-t"
  let mut status := 0
  for name in arguments.filter fun a => a.toList.head? != some '-' do
    match ← kindOf name with
    | some kind =>
      let long := match kind with
        | "function" => s!"{name} is a function"
        | "builtin" => s!"{name} is a shell builtin"
        | "keyword" => s!"{name} is a shell keyword"
        | _ => s!"{name} is /usr/bin/{name}"
      let _ ← write 1 ((if short then kind else long) ++ "\n")
    | none =>
      if !short then complain s!"type: {name}: not found"
      status := 1
  return status

end SmokeTest.Shell.Run
