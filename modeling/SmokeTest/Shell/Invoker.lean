/-
The shell as an invoker of commands.

Main definitions:

* `Shell.perform` — what a command leaves behind, and the files afterwards;
* `Shell.invoker` — the invoker that runs commands in a directory of a file tree.

Design notes: what is written may be any bytes. Parts that are not well formed are replaced, and
blanks at the end are left out.
-/
import SmokeTest.Command
import SmokeTest.Shell.Evaluation
import SmokeTest.Text.Blank

namespace SmokeTest.Shell

/-- Where commands of the system lie. -/
def usualPath : String := "/usr/local/sbin:/usr/local/bin:/usr/sbin:/usr/bin:/sbin:/bin"

/-- The directories that hold the shell. -/
def shellPlaces : List String := ["/bin", "/usr/bin", "/bin/", "/usr/bin/"]

/-- What every shell is given unless its environment says otherwise. -/
def usualEnvironment : List (String × String) :=
  [("HOME", "/root"), ("PATH", usualPath), ("SHLVL", "1")]

/-- The variables that a shell sets for itself. -/
def ownVariables : List (String × String) :=
  [("IFS", " \t\n"), ("OPTIND", "1"), ("BASH", "/usr/bin/bash"),
    ("BASH_VERSION", "5.2.21(1)-release"), ("OSTYPE", "linux-gnu"), ("HOSTTYPE", "x86_64"),
    ("PPID", "4241"), ("UID", "0"), ("EUID", "0"), ("SHELL", "/bin/bash"), ("TERM", "dumb"),
    ("HOSTNAME", "localhost"), ("OPTERR", "1")]

/-- A shell before its first command. -/
def startState (directory : Location) (environment : List (String × String)) : ShellState :=
  let s := Interpreter.importEnvironment (usualEnvironment ++ environment ++
    [("PWD", Builtin.pathOf directory)])
  let own := ownVariables.map fun (n, v) => (n, { value := .scalar v : Variable })
  { s with
    bindings := s.bindings ++ own.filter fun (n, _) => (s.bindings.lookup n).isNone
    channels := [(0, .nowhere), (1, .output 0), (2, .output 1)]
    directory }

/-- The fuel that commands are given. -/
def fuel : Nat := 100000

/-- The name and the value that an entry of an environment writes. -/
def nameAndValue (entry : List Char) : String × String :=
  match Text.cut '=' entry with
  | some (name, value) => (String.ofList name, String.ofList value)
  | none => (String.ofList entry, "")

/-- What a command leaves behind, the files afterwards and the time it takes. -/
def perform (directory : Location) (environment : List (String × String)) (files : FileTree)
    (command : String) : CommandRun FileTree :=
  let environment := environment.map fun (n, v) => nameAndValue (inward (n ++ "=" ++ v)).toList
  let m : Machine := {
    shell := startState (directory.map inward) environment
    outside := { files := files.rename inward, sinks := #[#[], #[]] } }
  let (stopped, m) := ((Interpreter.ofFuel fuel).script " -c:" (inward command).toList).run.run m
  let exitCode : Option Int := match stopped with
    | .error (.exit status) => some (status % 256 : Nat)
    | .error (.killed _) => none
    | _ => some m.shell.status
  let shown (sink : Nat) : String :=
    (Text.decodeLossy (Run.contents m.outside sink)).trimBlankEnd
  { result := .ok { exitCode, stdout := shown 0, stderr := shown 1 }
    world := m.outside.files.rename outward
    took := max (Run.closing m.outside 0) (Run.closing m.outside 1) }

/-- Whether a text can be handed to a command. -/
def isPassable (s : String) : Bool := !s.toList.contains '\x00'

/-- The invoker that runs commands in a directory, with an environment to which each command adds.
-/
def invoker (directory : Location) (environment : List (String × String)) : Invoker FileTree :=
  fun command overrides files =>
    let entries := environment.filter (fun (n, _) => (overrides.get? n).isNone) ++ overrides.entries
    let path := (entries.lookup "PATH").getD usualPath
    let places := (Text.pieces ':' path.toList).map String.ofList
    let refused (text : String) : CommandRun FileTree := { result := .error text, world := files }
    let passable := overrides.entries.all fun (n, v) => isPassable n && isPassable v
    if !isPassable command || !passable then
      refused "nul byte found in provided data"
    else
      match files.entry? directory with
      | some .directory =>
        if places.any shellPlaces.contains then perform directory entries files command
        else refused "No such file or directory (os error 2)"
      | some _ => refused "Not a directory (os error 20)"
      | none => refused "No such file or directory (os error 2)"

end SmokeTest.Shell
