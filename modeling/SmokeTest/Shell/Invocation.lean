/-
Simple commands: functions, built-in commands and commands of the system.

Main definitions:

* `Interpreter.standard` — runs a command that is no function;
* `Interpreter.simple` — runs a simple command with its assignments and redirections.
-/
import SmokeTest.Shell.Assignment
import SmokeTest.Shell.Job
import SmokeTest.Shell.Lookup
import SmokeTest.Shell.Redirection

namespace SmokeTest.Shell.Interpreter

open Run Builtin

/-- The variables of a new shell that is given an environment. -/
def importEnvironment (entries : List (String × String)) : ShellState :=
  entries.foldl (fun s (name, text) =>
    if Reader.isName name.toList then
      let others := s.bindings.filter (·.1 != name)
      { s with bindings := (name, { value := .scalar text, exported := true }) :: others }
    else { s with strays := s.strays ++ [(name, text)] }) {}

/-- The arguments of `xargs`, where the value of an option is an argument of its own. -/
def spreadOptions (arguments : List String) : List String :=
  match arguments with
  | a :: rest =>
    match a.toList with
    | '-' :: c :: d :: more =>
      if c == 'n' || c == 'I' then String.ofList ['-', c] :: String.ofList (d :: more) :: rest
      else arguments
    | _ => arguments
  | [] => []

/-- A word as it is shown when commands are traced. -/
def shownWord (w : String) : String :=
  if !w.isEmpty && w.toList.all Format.isPlain then w else String.ofList (quotedText w.toList)

/-! ### Signals -/

/-- Sends a signal to the shell itself. -/
def receive (i : Interpreter) (n : Nat) : Run Unit := do
  let traps := (← shell).traps
  match (Signal.name? n).bind fun name => traps.lookup name with
  | some action => if n == 9 then throw (.killed n) else i.source "" (← shell).line action.toList
  | none => if !Signal.isHarmless n then throw (.killed n)

/-- Sends signals. -/
def kill (i : Interpreter) (arguments : List String) : Run Nat := do
  let (name, targets) := match arguments with
    | "-s" :: s :: more | "-n" :: s :: more => (s, more)
    | a :: more =>
      match a.toList with
      | '-' :: c :: letters =>
        if c == '-' then ("TERM", more) else (String.ofList (c :: letters), more)
      | _ => ("TERM", a :: more)
    | [] => ("TERM", [])
  let targets := if targets.head? == some "--" then targets.drop 1 else targets
  if name == "l" || name == "L" then
    for t in targets do
      let shown := match Text.readDigits? 10 t.toList with
        | some n => (Signal.name? (n % 128)).getD ""
        | none => ((Signal.ofText? t).map Text.decimal).getD ""
      let _ ← write 1 (shown ++ "\n")
    return 0
  if targets.isEmpty then
    let _ ← write 2
      "kill: usage: kill [-s sigspec | -n signum | -sigspec] pid | jobspec ... or kill -l [sigspec]\n"
    return 2
  match Signal.ofText? name with
  | none =>
    complain s!"kill: {name}: invalid signal specification"
    return 1
  | some n =>
    let mut status := 0
    for t in targets do
      let digits := if t.toList.head? == some '-' then t.toList.drop 1 else t.toList
      match ← jobNumber? t with
      | some job =>
        if !Signal.isHarmless n then
          let _ ← endJob job (128 + n)
      | none =>
        match Text.readDigits? 10 digits with
        | none =>
          complain s!"kill: {t}: arguments must be process or job IDs"
          status := 1
        | some target =>
          let own := processId + (← shell).process
          if target == processId || target == 0 then i.receive n
          else if target == own || ((← shell).nested && target == processId + 1) then
            if !Signal.isHarmless n then throw (.exit (128 + n))
          else
            complain s!"kill: ({t}) - No such process"
            status := 1
    return status

/-! ### Commands that run commands -/

/-- Runs a shell of its own. -/
def newShell (i : Interpreter) (arguments : List String) : Run Nat := do
  let s ← shell
  let fresh := importEnvironment (← environment)
  let run (zero place functionOrigin : String) (positional : List String) (text : String) :
      Run Nat :=
    try
      inCopy do
        change fun _ => { fresh with
          zero, positional, origin := zero, functionOrigin, process := s.process
          channels := s.channels, directory := s.directory }
        i.script place text.toList
    catch
      | .killed n =>
        if n == 15 then
          let _ ← write 2 "Terminated\n"
        return 128 + n
      | stop => throw stop
  let flags := arguments.takeWhile fun a => a.toList.head? == some '-'
  match flags.any (fun a => a.toList.contains 'c'), arguments.drop flags.length with
  | true, text :: more =>
    run ((more.head?).getD "bash") " -c:" "environment" (more.drop 1) text
  | false, path :: more =>
    match (← outside).files.read? s.directory path with
    | some bytes => run path "" path more (ofBytes bytes)
    | none =>
      let _ ← write 2 s!"bash: {path}: No such file or directory\n"
      return 127
  | false, [] =>
    let text := ofBytes (← pending 0)
    leave 0 []
    run "bash" "" "main" [] text
  | true, [] => return 2

/-- Runs a command in another environment, or shows the environment. -/
def withEnvironment (run : String → List String → Run Nat) (arguments : List String) :
    Run Nat := do
  let saved := (← shell).bindings
  let cleared := arguments.head? == some "-i" || arguments.head? == some "-"
  if cleared then
    let kept (n : String) (v : Variable) : Bool := n == "PATH" || !v.exported
    change fun s => { s with bindings := s.bindings.filter fun (n, v) => kept n v }
  let arguments := if cleared then arguments.drop 1 else arguments
  let (unset, arguments) := match arguments with
    | "-u" :: n :: more => ([n], more)
    | arguments => ([], arguments)
  for n in unset do putVariable n none
  let given := arguments.takeWhile fun a => a.toList.contains '='
  for a in given do
    match assignment a with
    | (n, some (_, v)) => putVariable n (some { value := .scalar v, exported := true })
    | _ => pure ()
  let status ← match arguments.drop given.length with
    | [] =>
      let entries ← environment
      let shown := entries.filter fun (n, _) => !cleared || n != "PATH"
      let _ ← write 1 (String.join (shown.map fun (n, v) => s!"{n}={v}\n"))
      pure 0
    | n :: more => run n more
  change fun s => { s with bindings := saved }
  return status

/-- Runs a command for so many items at a time, as long as there are any. -/
def batches (run : String → List String → Run Nat) (size : Nat) (words : List String) :
    Nat → List String → (status : Nat) → Run Nat
  | 0, _, status => return status
  | _, [], status => return status
  | count + 1, items, status => do
    let s ← run (words.head?.getD "echo") (words.drop 1 ++ items.take size)
    batches run size words count (items.drop size) (if s = 0 then status else 123)

/-- Runs a command for every item, which takes the place of a mark. -/
def substituted (run : String → List String → Run Nat) (mark : String) (words items : List String) :
    Run Nat := do
  let mut status := 0
  for item in items do
    let sought := Glob.ofWord (lettersOf false mark)
    let put (w : String) : String :=
      String.ofList (replaced .all sought (fun _ => item.toList) w.toList)
    let s ← run ((words.map put).head?.getD "echo") ((words.map put).drop 1)
    if s ≠ 0 then status := 123
  return status

/-! ### Commands by their names -/

mutual

/-- Runs a command that is no function. -/
def standard (i : Interpreter) : Nat → String → List String → Run Nat
  | 0, _, _ => throw .exhausted
  | fuel + 1, name, arguments => do
    let rest (n : Nat) : List String := arguments.drop n
    match name with
    | "eval" =>
      setStatus 0
      i.source " eval:" (← shell).line (" ".intercalate arguments).toList
      return (← shell).status
    | "source" | "." =>
      match arguments with
      | path :: _ =>
        let bytes ← match ← openToRead path with
          | .ok (.input n) => pure (((← outside).sources[n]?).map Source.bytes)
          | .ok _ => pure (some [])
          | .error _ => pure none
        match bytes with
        | some bytes =>
          let outer ← shell
          change fun s => { s with frames := [] :: s.frames, origin := path, status := 0 }
          if !(rest 1).isEmpty then change fun s => { s with positional := rest 1 }
          let restore := change fun s =>
            { s with
              frames := s.frames.drop 1, origin := outer.origin, line := outer.line
              positional := if (rest 1).isEmpty then s.positional else outer.positional }
          try
            tidily (i.source "" 1 (ofBytes bytes).toList) restore
            return (← shell).status
          catch
            | .leave status => return status
            | stop => throw stop
        | none =>
          complain s!"{path}: No such file or directory"
          return 1
      | [] =>
        complain s!"{name}: filename argument required"
        let _ ← write 2 s!"{name}: usage: {name} filename [arguments]\n"
        return 2
    | "command" | "builtin" =>
      match arguments with
      | "-v" :: names | "-V" :: names =>
        let mut status := 0
        for n in names do
          match ← kindOf n with
          | some "file" =>
            let shown := if n.toList.contains '/' then n else "/usr/bin/" ++ n
            let _ ← write 1 (shown ++ "\n")
          | some _ => let _ ← write 1 (n ++ "\n")
          | none => status := 1
        return status
      | "-p" :: n :: more | n :: more => standard i fuel n more
      | [] => return 0
    | "exec" =>
      match arguments with
      | n :: more =>
        if (← utilityName? n).isNone then
          if n.toList.contains '/' then throw (.exit (← notFound n))
          complain s!"exec: {n}: not found"
          throw (.exit 127)
        change fun s => { s with traps := [] }
        throw (.exit (← external i fuel n more))
      | [] => return 0
    | "kill" => i.kill arguments
    | "wait" => wait arguments
    | "type" => typeOf arguments
    | _ =>
      match Builtin.find? name with
      | some f => f arguments
      | none => external i fuel name arguments

/-- Runs a command that is no part of the shell. -/
def external (i : Interpreter) : Nat → String → List String → Run Nat
  | 0, _, _ => throw .exhausted
  | fuel + 1, name, arguments => do
    let rest (n : Nat) : List String := arguments.drop n
    match (← utilityName? name).getD "" with
    | "bash" | "sh" => i.newShell arguments
    | "env" => withEnvironment (standard i fuel) arguments
    | "which" =>
      let mut status := 0
      for n in arguments do
        if (← utilityName? n).isSome then
          let _ ← write 1 ((if n.toList.contains '/' then n else "/usr/bin/" ++ n) ++ "\n")
        else status := 1
      return status
    | "nohup" => standard i fuel (arguments.head?.getD "") (rest 1)
    | "timeout" =>
      let limit := ((arguments.head?).bind Utility.duration?).getD 0
      let moment := (← outside).clock + limit
      let outer := (← shell).process
      let process ← newProcess
      change fun s => { s with process }
      let status ← tidily (external i fuel ((rest 1).head?.getD "") (rest 2))
        (change fun s => { s with process := outer })
      if limit = 0 || (← outside).clock ≤ moment then return status
      silence process moment
      changeOutside fun o => { o with clock := moment }
      return 124
    | "xargs" =>
      let input := (ofBytes (← pending 0)).toList
      leave 0 []
      let blank (c : Char) : Bool := c == ' ' || c == '\t' || c == '\n'
      let items := (input.splitBy fun a b => blank a == blank b).filter fun w =>
        !(w.head?.any blank)
      let items := items.map String.ofList
      match spreadOptions arguments with
      | "-n" :: n :: more =>
        let size := max 1 ((Text.readDigits? 10 n.toList).getD 1)
        batches (standard i fuel) size more items.length items 0
      | "-I" :: mark :: more =>
        let lines := (Text.pieces '\n' input).filter (· ≠ [])
        substituted (standard i fuel) mark more (lines.map String.ofList)
      | "-r" :: n :: more => if items.isEmpty then return 0 else standard i fuel n (more ++ items)
      | n :: more => standard i fuel n (more ++ items)
      | [] => standard i fuel "echo" items
    | known =>
      if ["echo", "printf", "true", "false", "test", "[", "pwd"].contains known then
        match Builtin.find? known with
        | some f => f arguments
        | none => notFound name
      else
        match ← utility name arguments with
        | some status => return status
        | none => notFound name

end

/-! ### Simple commands -/

/-- Runs a function. -/
def callFunction (i : Interpreter) (name : String) (body : Command) (arguments : List String) :
    Run Nat := do
  let before := (← shell).positional
  let outer ← shell
  change fun s =>
    { s with
      positional := arguments, frames := [] :: s.frames, origin := s.functionOrigin, loops := 0
      callers := name :: s.callers }
  let restore : Run Unit := do
    let frame := ((← shell).frames.head?).getD []
    for (n, v) in frame do putVariable n v
    change fun s =>
      { s with
        positional := before, frames := s.frames.drop 1, origin := outer.origin
        loops := outer.loops, line := outer.line, callers := outer.callers }
  try
    i.command body
    restore
    return (← shell).status
  catch
    | .leave status =>
      restore
      return status
    | stop =>
      restore
      throw stop

/-- Runs a command by its name; gives back its status. -/
def dispatch (i : Interpreter) (name : String) (arguments : List String) : Run Nat := do
  match (← shell).functions.lookup name with
  | some body => i.callFunction name body arguments
  | none => i.standard i.fuel name arguments

/-- Runs a simple command with its redirections. -/
def simple (i : Interpreter) (as : List Assignment) (ws : List Word) (rs : List Redirect) :
    Run Unit := do
  change fun s => { s with substituted := none }
  let declares := match ws with
    | [.bare s] :: _ => declaring.contains s
    | _ => false
  let found ← if declares then i.declaredFields ws else i.fields ws
  match found with
  | [] =>
    for a in as do
      i.assignOne a
      if ← hasOption "xtrace" then
        let value := (← textOf? a.name).getD ""
        let shown := if value.isEmpty then "" else shownWord value
        let _ ← write 2 ("+ " ++ a.name ++ "=" ++ shown ++ "\n")
    let status := ((← shell).substituted).getD 0
    i.conclude (← i.withRedirects false rs (return status))
  | name :: arguments =>
    if ← hasOption "xtrace" then
      let _ ← write 2 ("+ " ++ " ".intercalate (found.map shownWord) ++ "\n")
    if name == "exec" && arguments.isEmpty then
      i.conclude (← i.withRedirects true rs (return 0))
    else if declares then
      for a in as do
        match a.value with
        | .array _ =>
          if !(← shell).frames.isEmpty && name != "export" && name != "readonly" then
            makeLocal a.name
          if arguments.any fun o => o.toList.head? == some '-' && o.toList.contains 'A' then
            putVariable a.name (some { value := .table [] })
        | .scalar _ => pure ()
        i.assignOne a
      let arguments := if arguments.isEmpty then [] else arguments ++ as.map Assignment.name
      if arguments.isEmpty && !as.isEmpty && name != "readonly" then i.conclude 0
      else
        let arguments := if arguments.isEmpty then as.map Assignment.name else arguments
        i.conclude (← i.withRedirects false rs (i.dispatch name arguments))
    else
      let before ← as.mapM fun a => do return (a.name, ← binding? a.name)
      let restore : Run Unit := do
        for (n, v) in before do putVariable n v
      let status ← tidily (do
        for a in as do
          if (before.lookup a.name).join.any Variable.constant then
            complain s!"{a.name}: readonly variable"
          else
            i.assignOne a
            change fun s => { s with bindings := s.bindings.map fun (n, v) =>
              if n = a.name then (n, { v with exported := true }) else (n, v) }
        i.withRedirects false rs (i.dispatch name arguments)) restore
      i.conclude status

end SmokeTest.Shell.Interpreter
