/-
The commands of a system that are no part of the shell.

Main statement: `Utility.find? name` is the command with a name. Only what tests of services
commonly use is known.
-/
import SmokeTest.Outcome
import SmokeTest.Shell.Utility.Compare
import SmokeTest.Shell.Utility.Encode
import SmokeTest.Shell.Utility.Files
import SmokeTest.Shell.Utility.Search
import SmokeTest.Shell.Utility.Text

namespace SmokeTest.Shell.Utility

open Text

/-- The nanoseconds that a duration such as `0.3` or `2m` writes. -/
def duration? (s : String) : Option Nat := do
  let letters := s.toList
  let (scale, letters) := match letters.getLast? with
    | some 's' => (1, letters.dropLast)
    | some 'm' => (60, letters.dropLast)
    | some 'h' => (3600, letters.dropLast)
    | some 'd' => (86400, letters.dropLast)
    | _ => (1, letters)
  let (negative, digits, places) ← Format.decimal? letters
  if negative then none else some (digits * scale * nanosPerSecond / Nat.pow 10 places)

/-- Waits. -/
def sleep (c : Call) : Effect :=
  match c.arguments.find? fun a => (duration? a).isNone with
  | some a => misuse c s!"invalid time interval '{a}'"
  | none =>
    if c.arguments.isEmpty then misuse c "missing operand"
    else { took := (c.arguments.filterMap duration?).foldl (· + ·) 0 }

/-- Writes the environment, or variables of it. -/
def printenv (c : Call) : Effect :=
  match c.arguments with
  | [] => say (String.join (c.environment.map fun (n, v) => s!"{n}={v}\n"))
  | names =>
    let found := names.filterMap fun n => c.environment.lookup n
    { say (String.join (found.map (· ++ "\n"))) with
      status := if found.length == names.length then 0 else 1 }

/-- Writes a line again and again, for as long as anybody can be expected to read. -/
def yes (c : Call) : Effect :=
  let line := toBytes (if c.arguments.isEmpty then "y\n" else " ".intercalate c.arguments ++ "\n")
  { output := (List.replicate (endless / line.length + 1) line).flatten }

/-- The value of an expression whose parts are arguments. -/
def expr (c : Call) : Effect :=
  let isNull (s : String) : Bool := s.isEmpty || s == "0"
  let result (s : String) : Effect := { say (s ++ "\n") with status := if isNull s then 1 else 0 }
  let truth (b : Bool) : Effect := result (if b then "1" else "0")
  let numbers (a b : String) : Option (Int × Int) := do
    some (← Format.number? a.toList, ← Format.number? b.toList)
  match c.arguments with
  | [a] => result a
  | ["length", a] => result (decimal (toBytes a).length)
  | [a, op, b] =>
    match numbers a b with
    | some (x, y) =>
      if op == "=" then truth (x == y)
      else
        match applyOperator? (if op == "=" then "==" else op) x y with
        | some n => result (String.ofList (Format.wholeText { letter := 'd' } n))
        | none => refuse c 2 "division by zero"
    | none =>
      match op with
      | "=" => truth (a == b)
      | "!=" => truth (a != b)
      | "<" => truth (a < b)
      | ">" => truth (b < a)
      | ":" =>
        match Ere.read? true b.toList with
        | some e =>
          let text := a.toList.toArray
          match Ere.fit? false text (16 * (text.size + 4) * (e.size + 4)) [.expression e] 0 [] with
          | some (stop, groups) =>
            if e.groupCount == 0 then result (decimal stop)
            else result (String.ofList (Ere.groupText text groups 1))
          | none => result (if e.groupCount == 0 then "0" else "")
        | none => refuse c 2 "invalid regular expression"
      | _ => refuse c 2 "non-integer argument"
  | _ => refuse c 2 "syntax error"

/-- The name of the system. -/
def uname (c : Call) : Effect :=
  if c.arguments.isEmpty || c.arguments == ["-s"] then say "Linux\n" else {}

/-- Lines of several texts side by side. -/
def paste (c : Call) : Effect :=
  let (os, paths) := options ['d'] c.arguments
  let separator := (((value? os 'd').getD "\t").toList.head?).toList
  let texts := paths.map fun p => linesOf ((readPath c p).toOption.getD [])
  if has os 's' then
    let texts := if paths.isEmpty then [linesOf c.input] else texts
    { output := unlines (texts.map separator.intercalate), reads := paths.isEmpty }
  else
    let rows := (texts.map List.length).foldl max 0
    { output := unlines ((List.range rows).map fun i =>
        separator.intercalate (texts.map fun ls => (ls[i]?).getD []))
      reads := paths.contains "-" }

/-- Who runs the commands. -/
def identity (c : Call) : Effect :=
  match c.arguments with
  | ["-u"] | ["-g"] => say "0\n"
  | ["-un"] | ["-gn"] | ["-u", "-n"] => say "root\n"
  | [] => say "uid=0(root) gid=0(root) groups=0(root)\n"
  | _ => {}

/-- Looks whether files are there whose looks are to be changed. -/
def touchUp (c : Call) : Effect :=
  let (_, operands) := options [] c.arguments
  let missing := (operands.drop 1).filter fun p => (c.files.find? c.directory p).isNone
  let errors := String.join (missing.map fun p =>
    s!"{c.name}: cannot access '{p}': No such file or directory\n")
  { errors, status := if missing.isEmpty then 0 else 1 }

/-- The command with a name. -/
def find? (name : String) : Option (Call → Effect) :=
  match name with
  | "cat" => some cat
  | "head" => some head
  | "tail" => some tail
  | "wc" => some wc
  | "rev" => some (reversing true)
  | "tac" => some (reversing false)
  | "tr" => some tr
  | "sort" => some sort
  | "uniq" => some uniq
  | "cut" => some cut
  | "grep" => some (grep false false)
  | "egrep" => some (grep true false)
  | "fgrep" => some (grep false true)
  | "sed" => some sed
  | "seq" => some seq
  | "basename" => some basename
  | "dirname" => some dirname
  | "ls" => some ls
  | "mkdir" => some mkdir
  | "touch" => some touch
  | "rm" => some rm
  | "rmdir" => some rmdir
  | "cp" => some (transfer false)
  | "mv" => some (transfer true)
  | "tee" => some tee
  | "sleep" => some sleep
  | "printenv" => some printenv
  | "yes" => some yes
  | "expr" => some expr
  | "uname" => some uname
  | "find" => some find
  | "paste" => some paste
  | "od" => some od
  | "base64" => some base64
  | "diff" => some diff
  | "cmp" => some cmp
  | "id" => some identity
  | "whoami" => some fun _ => say "root\n"
  | "chmod" | "chown" | "chgrp" => some touchUp
  | "hostname" => some fun _ => say "localhost\n"
  | "nproc" => some fun _ => say "4\n"
  | "sync" => some fun _ => {}
  | _ => none

end SmokeTest.Shell.Utility
