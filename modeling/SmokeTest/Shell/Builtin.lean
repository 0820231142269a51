/-
Commands that are part of the shell and do not run other commands.

Main statement: `Builtin.find? name` is the command with a name, as a function from arguments to a
computation of the status.
-/
import SmokeTest.Shell.Builtin.Input
import SmokeTest.Shell.Builtin.Variables
import SmokeTest.Shell.Condition
import SmokeTest.Shell.Signal

namespace SmokeTest.Shell.Builtin

open Run

/-- A text that the shell reads as the given one, between single quotes. -/
def quotedText (s : List Char) : List Char :=
  '\'' :: (s.flatMap fun c => if c == '\'' then "'\\''".toList else [c]) ++ ['\'']

/-- Writes a text to standard output; the status says whether that is possible. -/
def say (name text : String) : Run Nat := do
  if ← write 1 text then return 0
  complain s!"{name}: write error: Bad file descriptor"
  return 1

/-- Writes its arguments. -/
def echo (arguments : List String) : Run Nat := do
  let (options, rest) := split arguments
  let letters := options.flatMap fun o => o.toList.drop 1
  let escapes := (letters.filter (· != 'n')).getLast? == some 'e'
  let text := " ".intercalate rest
  if escapes then
    let (s, ended) := echoText false (text.length + 1) text.toList
    say "echo" (String.ofList s ++ if ended || letters.contains 'n' then "" else "\n")
  else say "echo" (text ++ if letters.contains 'n' then "" else "\n")
where
  /-- The options in front, and the rest. -/
  split : List String → List String × List String
    | [] => ([], [])
    | a :: rest =>
      match a.toList with
      | '-' :: c :: more =>
        if (c :: more).all "neE".toList.contains then
          let (os, rest) := split rest
          (a :: os, rest)
        else ([], a :: rest)
      | _ => ([], a :: rest)

/-- Writes by a format. -/
def printf (arguments : List String) : Run Nat := do
  let (target, arguments) := match arguments with
    | "-v" :: name :: rest => (some name, rest)
    | arguments => (none, arguments)
  let arguments := if arguments.head? == some "--" then arguments.drop 1 else arguments
  match arguments with
  | [] =>
    let _ ← write 2 "printf: usage: printf [-v var] format [arguments]\n"
    return 2
  | format :: rest =>
    let w := Format.formatAll format.toList (rest.length + 1) rest {}
    for message in w.complaints do
      complain s!"printf: {message}"
    let text := String.ofList w.text
    let status ← match target with
      | some name =>
        assign name text
        pure 0
      | none => if text.isEmpty then pure 0 else say "printf" text
    return if w.complaints.isEmpty then status else 1

/-- The status that an argument asks for; none with a complaint if it is no number. -/
def statusOf? (name : String) (arguments : List String) : Run (Option Nat) := do
  match arguments with
  | [] => return some (← shell).status
  | a :: _ =>
    match wholeNumber? a with
    | some n => return some (n % 256).toNat
    | none =>
      complain s!"{name}: {a}: numeric argument required"
      return none

/-- Ends the shell. -/
def exit (arguments : List String) : Run Nat := do
  match ← statusOf? "exit" arguments with
  | none => throw (.exit 2)
  | some status =>
    if 1 < arguments.length then
      complain "exit: too many arguments"
      throw (.broken 1)
    throw (.exit status)

/-- Leaves a function or a text that is run like one. -/
def «return» (arguments : List String) : Run Nat := do
  if (← shell).frames.isEmpty then
    complain "return: can only \x60return' from a function or sourced script"
    return 2
  match ← statusOf? "return" arguments with
  | some status => throw (.leave status)
  | none => throw (.leave 2)

/-- Leaves loops, as many as the argument says. -/
def leaveLoops (name : String) (stop : Nat → Stop) (arguments : List String) : Run Nat := do
  let loops := (← shell).loops
  if loops = 0 then
    complain s!"{name}: only meaningful in a \x60for', \x60while', or \x60until' loop"
    return 0
  match arguments with
  | [] => throw (stop 1)
  | a :: _ =>
    match wholeNumber? a with
    | none =>
      complain s!"{name}: {a}: numeric argument required"
      throw (.exit 128)
    | some n =>
      if n ≤ 0 then
        complain s!"{name}: {a}: loop count out of range"
        setStatus 1
        throw (.endLoop loops)
      throw (stop (min n.toNat loops))

/-- The path of a location. -/
def pathOf (l : Location) : String :=
  if l.isEmpty then "/" else String.join (l.map ("/" ++ ·))

/-- Changes the directory. -/
def cd (arguments : List String) : Run Nat := do
  let arguments := arguments.filter fun a => a != "-P" && a != "-L" && a != "--"
  if 1 < arguments.length then
    complain "cd: too many arguments"
    return 1
  let (name, target) ← match arguments with
    | ["-"] => pure ("OLDPWD", ← textOf? "OLDPWD")
    | a :: _ => pure ("", some a)
    | [] => pure ("HOME", ← textOf? "HOME")
  match target with
  | none =>
    complain s!"cd: {name} not set"
    return 1
  | some path =>
    if path.isEmpty then return 0
    let s ← shell
    let files := (← outside).files
    match files.find? s.directory path, files.locate? s.directory path with
    | some .directory, some l =>
      assign "OLDPWD" (pathOf s.directory)
      assign "PWD" (pathOf l)
      change fun s => { s with directory := l }
      if arguments == ["-"] then say "cd" (pathOf l ++ "\n") else return 0
    | some _, _ =>
      complain s!"cd: {path}: Not a directory"
      return 1
    | none, _ =>
      complain s!"cd: {path}: No such file or directory"
      return 1

/-- Moves the positional parameters. -/
def shift (arguments : List String) : Run Nat := do
  let n := match arguments with
    | [] => some 1
    | a :: _ => wholeNumber? a
  let s ← shell
  let shown := arguments.head?.getD ""
  match n with
  | none =>
    complain s!"shift: {shown}: numeric argument required"
    throw (.exit 1)
  | some (.negSucc _) =>
    complain s!"shift: {shown}: shift count out of range"
    return 1
  | some (.ofNat n) =>
  if s.positional.length < n then return 1
  change fun s => { s with positional := s.positional.drop n }
  return 0

/-- Evaluates its arguments; the status is that of the last one as a truth value. -/
def «let» (arguments : List String) : Run Nat := do
  if arguments.isEmpty then
    complain "let: expression expected"
    return 1
  try
    let mut last : Int := 0
    for a in arguments do
      last ← calculateFor "let" a
    return if last = 0 then 1 else 0
  catch
    | .broken _ => return 1
    | stop => throw stop

/-- Sets what is to be done at the end or on a signal, or shows it. -/
def trap (arguments : List String) : Run Nat := do
  let arguments := if arguments.head? == some "--" then arguments.drop 1 else arguments
  let display (chosen : List String) : Run Nat := do
    let traps := (← shell).traps.filter fun (n, _) => chosen.isEmpty || chosen.contains n
    let order (n : String) : Nat := (Signal.number? n).getD 100
    let sorted := traps.mergeSort fun a b => order a.1 ≤ order b.1
    let lines := sorted.map fun (n, action) =>
      let name := if Signal.isEvent n then n else "SIG" ++ n
      s!"trap -- {String.ofList (quotedText action.toList)} {name}\n"
    let _ ← write 1 (String.join lines)
    return 0
  let put (action : Option String) (signals : List String) : Run Nat := do
    let mut status := 0
    for s in signals do
      match Signal.trapName? s with
      | some n =>
        change fun s =>
          let others := s.traps.filter (·.1 != n)
          { s with traps := match action with
            | some a => (n, a) :: others
            | none => others }
      | none =>
        complain s!"trap: {s}: invalid signal specification"
        status := 1
    return status
  match arguments with
  | [] => display []
  | "-p" :: names => display (names.filterMap Signal.trapName?)
  | [a] =>
    if (Signal.trapName? a).isSome then put none [a]
    else
      let _ ← write 2 "trap: usage: trap [-lp] [[arg] signal_spec ...]\n"
      return 2
  | "-" :: signals => put none signals
  | action :: signals => put (some action) signals

/-- Shows the mask for new files, or sets it. -/
def umask (arguments : List String) : Run Nat := do
  match arguments.filter fun a => a.toList.head? != some '-' with
  | [] =>
    let _ ← write 1 ((← shell).mask ++ "\n")
    return 0
  | a :: _ =>
    match Text.readDigits? 8 a.toList with
    | some n =>
      let digits := Nat.toDigits 8 n
      let zeros := List.replicate (4 - digits.length) '0'
      change fun s => { s with mask := String.ofList (zeros ++ digits) }
      return 0
    | none => return 0

/-- Keeps other names of commands, or shows them. -/
def «alias» (arguments : List String) : Run Nat := do
  let display (n v : String) : Run Unit := do
    let _ ← write 1 s!"alias {n}={String.ofList (quotedText v.toList)}\n"
  let aliases := (← shell).aliases
  if arguments.isEmpty then
    for (n, v) in aliases.mergeSort fun a b => a.1 < b.1 || a.1 = b.1 do display n v
    return 0
  let mut status := 0
  for a in arguments do
    match assignment a with
    | (n, some (_, v)) =>
      change fun s => { s with aliases := (n, v) :: s.aliases.filter (·.1 != n) }
    | (n, none) =>
      match aliases.lookup n with
      | some v => display n v
      | none =>
        complain s!"alias: {n}: not found"
        status := 1
  return status

/-- Forgets other names of commands. -/
def unalias (arguments : List String) : Run Nat := do
  if arguments.contains "-a" then
    change fun s => { s with aliases := [] }
    return 0
  let mut status := 0
  for a in arguments do
    if ((← shell).aliases.lookup a).isNone then
      complain s!"unalias: {a}: not found"
      status := 1
    change fun s => { s with aliases := s.aliases.filter (·.1 != a) }
  return status

/-- Runs a command; what cannot be assigned makes it fail and nothing else. -/
def contained (r : Run Nat) : Run Nat := do
  try r
  catch
    | .broken status => return status
    | stop => throw stop

/-- The command with a name. -/
def find? (name : String) : Option (List String → Run Nat) :=
  match name with
  | ":" | "true" => some fun _ => return 0
  | "false" => some fun _ => return 1
  | "echo" => some echo
  | "printf" => some fun a => contained (printf a)
  | "exit" => some exit
  | "return" => some «return»
  | "break" => some (leaveLoops "break" .endLoop)
  | "continue" => some (leaveLoops "continue" .nextTurn)
  | "cd" => some cd
  | "pwd" => some fun _ => do say "pwd" (pathOf (← shell).directory ++ "\n")
  | "export" => some fun a => declare "export" false ("-x" :: a.filter (· != "-p"))
  | "readonly" => some fun a => declare "readonly" false ("-r" :: a)
  | "declare" | "typeset" => some fun a => do
    declare name (!(← shell).frames.isEmpty) a
  | "local" => some fun a => do
    if (← shell).frames.isEmpty then
      complain "local: can only be used in a function"
      return 1
    declare "local" true a
  | "unset" => some unset
  | "set" => some fun a => set (a.length + 1) a
  | "shopt" => some shopt
  | "shift" => some shift
  | "read" => some fun a => contained (read a)
  | "mapfile" | "readarray" => some fun a => contained (mapfile a)
  | "getopts" => some fun a => contained (getopts a)
  | "let" => some «let»
  | "test" | "[" => some (test name)
  | "trap" => some trap
  | "umask" => some umask
  | "alias" => some «alias»
  | "unalias" => some unalias
  | "fg" | "bg" => some fun _ => do
    complain s!"{name}: no job control"
    return 1
  | "ulimit" | "hash" | "jobs" | "disown" | "times" | "history" | "help" | "enable" | "bind" |
    "complete" | "compgen" | "pushd" | "popd" | "dirs" => some fun _ => return 0
  | _ => none

end SmokeTest.Shell.Builtin
