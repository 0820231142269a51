/-
The program.

It shows what its command line leads to and ends with the exit code. Commands are run by the shell
of this library, on a copy of the files of the directory that they are run in.
-/
import SmokeTest.CommandLine.Program
import SmokeTest.Shell.Invoker
import Std.Time.Format

namespace SmokeTest.Main

/-- The variables of the environment that the program and its commands look at. -/
def variableNames : List String :=
  ["CLICOLOR", "CLICOLOR_FORCE", "HOME", "LANG", "LC_ALL", "NO_COLOR", "PATH",
    "ST_ENV_NAME_PREFIX", "USER"]

/-- The variables that are set. -/
def environment : IO (List (String × String)) := do
  let values ← variableNames.mapM fun n => do return (← IO.getEnv n).map fun v => (n, v)
  return values.reduceOption

/-- The names from the root to what a path means, without looking at files. -/
def placeOf (start : Location) (path : String) : Location :=
  let start := if path.toList.head? = some '/' then [] else start
  (FileTree.pathNames path).foldl (fun l n =>
    if n = "" || n = "." then l else if n = ".." then l.dropLast else l ++ [n]) start

/-- The tree with the file at a path, if it can be read. -/
def addFile (start : Location) (t : FileTree) (path : String) : IO FileTree := do
  try
    let bytes ← IO.FS.readBinFile path
    return t.create (placeOf start path) (.file bytes.data.toList)
  catch _ => return t

/-- The tree with the directory at a path and the files in it, if it can be read. -/
def addDirectory (start : Location) (t : FileTree) (path : String) : IO FileTree := do
  try
    let entries ← ((← IO.currentDir) / path).readDir
    let t := t.makeDirectories (placeOf start path)
    entries.toList.foldlM (fun t e => addFile start t (path ++ "/" ++ e.fileName)) t
  catch _ => return t

/-- What the program finds when it is started with some words. -/
def surroundings (words : List String) : IO CommandLine.Surroundings := do
  let directory := placeOf [] (toString (← IO.currentDir))
  let files ← addDirectory directory (FileTree.system.makeDirectories directory) "."
  let files ← match CommandLine.Demand.ofWords words with
    | .ok (.run a) =>
      let files ← addFile directory files a.source
      match a.settings.directory with
      | some path => addDirectory directory files path
      | none => pure files
    | _ => pure files
  return {
    files, directory
    environment := ← environment
    now := (← Std.Time.PlainDateTime.now).format "uuuu-MM-dd HH:mm:ss"
    isTerminal := ← (← IO.getStdout).isTty }

end SmokeTest.Main

open SmokeTest in
/-- Shows what the command line leads to; gives back the exit code. -/
def main (words : List String) : IO UInt32 := do
  let s ← Main.surroundings words
  let ending := CommandLine.Ending.ofWords words s (fun place => Shell.invoker place s.environment)
    s.files
  IO.print ending.output
  match ending.failure with
  | some f => IO.eprintln ("\nError: " ++ f.message)
  | none => pure ()
  return UInt32.ofNat ending.exitCode.toNat
