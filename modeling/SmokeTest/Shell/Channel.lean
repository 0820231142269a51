/-
Opening files as channels.

Main definitions:

* `Run.openToWrite` and `Run.openToRead` — the channel of a path, or what is wrong with it.
-/
import SmokeTest.Shell.Machine

namespace SmokeTest.Shell.Run

/-- Where a file lies that is to be written, or what is wrong with its path. -/
def placeToWrite (path : String) : Run (Except String Channel) := do
  let files := (← outside).files
  match files.locate? (← shell).directory path with
  | none => return .error s!"{path}: No such file or directory"
  | some l =>
    match files.entry? l with
    | some .directory => return .error s!"{path}: Is a directory"
    | some .sink => return .ok .nowhere
    | _ => return .ok (.file l)

/-- Opens a file for writing. -/
def openToWrite (path : String) (append : Bool) : Run (Except String Channel) := do
  let existing ← match path with
    | "/dev/stdout" => channel? 1
    | "/dev/stderr" => channel? 2
    | _ => pure none
  match existing with
  | some c => return .ok c
  | none =>
    match ← placeToWrite path with
    | .ok (.file l) =>
      changeOutside fun o =>
        match o.files.entry? l with
        | some (.file _) =>
          if append then o else { o with files := o.files.put l (.file []) }
        | _ => { o with files := o.files.put l (.file []) }
      return .ok (.file l)
    | r => return r

/-- Opens a file for reading. -/
def openToRead (path : String) : Run (Except String Channel) := do
  if path == "/dev/stdin" then
    return match ← channel? 0 with
      | some c => .ok c
      | none => .error s!"{path}: No such file or directory"
  let files := (← outside).files
  let directory := (← shell).directory
  match files.find? directory path with
  | some .directory => return .error s!"{path}: Is a directory"
  | some .sink => return .ok .nowhere
  | some (.file bytes) => return .ok (.input (← newSource bytes 0))
  | none => return .error s!"{path}: No such file or directory"

end SmokeTest.Shell.Run
