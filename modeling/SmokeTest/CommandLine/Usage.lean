/-
The texts that the command line shows by itself, and the codes it ends with.

Main definitions:

* `ExitCode` — how a run of the program ended;
* `UsageError.message` — what is said about a faulty command line;
* `usageText start` — how the program is used, where variable names usually begin with `start`;
* `versionText`, `bannerText` — how the program names itself.
-/
import SmokeTest.CommandLine.Arguments
import SmokeTest.Report

namespace SmokeTest.CommandLine

/-- How a run of the program ended. -/
inductive ExitCode
  | allPassed
  | badUsage
  | badSelection
  | badPlan
  | unreadable
  | someFailed
  deriving DecidableEq, Repr, Inhabited

/-- The number that the system is told. -/
def ExitCode.toNat : ExitCode → Nat
  | allPassed => statusPassed
  | badUsage => 1
  | badSelection => 2
  | badPlan => 3
  | unreadable => 4
  | someFailed => statusFailed

/-- What help says about an exit code. -/
def ExitCode.meaning : ExitCode → String
  | allPassed => "all selected tests passed"
  | badUsage => "usage error"
  | badSelection => "empty tag or invalid filter"
  | badPlan => "configuration or engine error"
  | unreadable => "source file could not be read"
  | someFailed => "at least one test did not pass"

/-- All exit codes, by their numbers. -/
def ExitCode.all : List ExitCode :=
  [allPassed, badUsage, badSelection, badPlan, unreadable, someFailed]

/-- What an option with a value asks for. -/
def Parameter.need : Parameter → String
  | top => "a number"
  | nameStart => "a prefix"
  | directory => "a path"

/-- What is said about a faulty command line. -/
def UsageError.message : UsageError → String
  | missing p => s!"{p.name} requires {p.need} argument"
  | badTop word => s!"Invalid top value: {word}"
  | unknown word => s!"Unknown option: {word}"
  | unexpected word => s!"Unexpected argument: {word}"
  | tooFew => "Need a source file and a selector tag"

/-- Lines, each with its end. -/
def unlines (lines : List String) : String :=
  String.join (lines.map (· ++ "\n"))

/-- How the program is used. -/
def usageText (start : String) : String :=
  unlines ([
    "Usage: smokerunner [OPTIONS] <SOURCE> <TAG> [FILTER]",
    "",
    "Arguments:",
    "  <SOURCE>            Text, JSON (.json) or YAML (.yaml/.yml) smoke test file",
    "  <TAG>               Selector tag, case insensitive (e.g. dev, sit, prod)",
    "  [FILTER]            Optional filter applied to already selected tests:",
    "                        ==REGEX    command matches regex",
    "                        =!REGEX    command does not match regex",
    "                        ~=TEXT     command contains text",
    "                        ~!TEXT     command does not contain text",
    "                        #ID#ID#    test id is listed",
    "                        TEXT       command contains text",
    "",
    "Options:",
    "  --top N             Slowest passing tests to list (default: " ++ Text.decimal defaultTop ++
      ")",
    "  --env-prefix P      Prefix for injected variables (default: " ++ start ++ ")",
    "  --working-dir PATH  Directory commands run in",
    "  --no-color          Disable coloured output",
    "  --verbose           Enable debug logging",
    "  --help              Show this help message",
    "  --version           Show version information",
    "",
    "Exit codes:"] ++
    ExitCode.all.map (fun c => "  " ++ Text.decimal c.toNat ++ "  " ++ c.meaning) ++ [
    "",
    "Examples:",
    "  smokerunner scripts.txt sit",
    "  smokerunner scripts.txt prod '==^curl'",
    "  smokerunner smoke.json dev --top 10"])

/-- The name and the version of the program on one line. -/
def versionText : String := unlines [appName ++ " " ++ version]

/-- What a run shows first. -/
def bannerText : String :=
  unlines ["", appName ++ " v" ++ version, "Parallel Smoke Test Runner", ""]

end SmokeTest.CommandLine
