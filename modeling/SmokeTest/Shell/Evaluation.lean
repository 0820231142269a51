/-
Running shell commands.

Main definitions:

* `Interpreter.holds` — whether a condition holds;
* `Interpreter.runCommand` — runs a command and sets the status;
* `Interpreter.runLines` — runs a text line by line;
* `Interpreter.ofFuel` — the interpreter itself.

Design notes: commands need not come to an end, so an interpreter goes only so many levels deep,
each level running its parts on the next one. What cannot be read ends the whole text.
-/
import SmokeTest.Shell.Invocation

namespace SmokeTest.Shell.Interpreter

open Run Builtin

/-- Runs a turn of a loop; says whether the loop goes on. -/
def turn (r : Run Unit) : Run Bool := do
  try
    r
    return true
  catch
    | .endLoop n => if n ≤ 1 then return false else throw (.endLoop (n - 1))
    | .nextTurn n => if n ≤ 1 then return true else throw (.nextTurn (n - 1))
    | stop => throw stop

/-- Makes a variable an array with the given texts. -/
def putArray (name : String) (texts : List String) : Run Unit := do
  let old ← binding? name
  putVariable name (some { (old.getD { value := .scalar "" }) with
    value := .array (texts.zipIdx.map fun (t, i) => (i, t)) })

/-- What is said of a text that cannot be read. -/
def faultText (origin : String) (first : Nat) (text : List Char) (fault : Fault) : String :=
  let before (place : Nat) : List Char := text.take (text.length - place)
  let lineAt (place : Nat) : Nat := first + (before place).count '\n'
  let start (place : Nat) : String := s!"{origin} line {Text.decimal (lineAt place)}: "
  let shown (place : Nat) : String :=
    let front := ((before place).reverse.takeWhile (· != '\n')).reverse
    let back := (text.drop (text.length - place)).takeWhile (· != '\n')
    start place ++ "\x60" ++ String.ofList (front ++ back) ++ "'\n"
  match fault with
  | .unexpected token place =>
    start place ++ s!"syntax error near unexpected token \x60{token}'\n" ++ shown place
  | .unexpectedEnd => start 0 ++ "syntax error: unexpected end of file\n"
  | .unclosed mark place =>
    start place ++ s!"unexpected EOF while looking for matching \x60{String.singleton mark}'\n"
  | .condition message token place =>
    (if message.isEmpty then "" else start place ++ message ++ "\n") ++
      start place ++ s!"syntax error near \x60{token}'\n" ++ shown place

/-! ### Conditions -/

/-- Whether a condition holds. -/
def holds (i : Interpreter) : Condition → Run Bool
  | .not c => do return !(← i.holds c)
  | .and a b => do
    if ← i.holds a then i.holds b else return false
  | .or a b => do
    if ← i.holds a then return true else i.holds b
  | .nonempty w => do return !(← i.text w).isEmpty
  | .unary op w => do holdsUnary op (← i.text w)
  | .binary op left right => do
    let a ← i.text left
    if op == "==" || op == "=" || op == "!=" then
      let p := Glob.ofWord (← i.letters right)
      return Glob.fits (← hasOption "nocasematch") p a.toList != (op == "!=")
    else if op == "=~" then
      let marks := "\\.[]()*+?^$|\x7b\x7d".toList
      let pattern := (← i.letters right).flatMap fun l =>
        if l.active || !marks.contains l.char then [l.char] else ['\\', l.char]
      match Ere.read? false pattern with
      | none => throw (.broken 2)
      | some e =>
        let chars := a.toList.toArray
        match Ere.search? (← hasOption "nocasematch") e chars with
        | none =>
          putArray "BASH_REMATCH" []
          return false
        | some (start, stop, groups) =>
          let whole := String.ofList (chars.extract start stop).toList
          let parts := (List.range e.groupCount).map fun i =>
            String.ofList (Ere.groupText chars groups (i + 1))
          putArray "BASH_REMATCH" (whole :: parts)
          return true
    else
      match ← holdsBinary op a (← i.text right) with
      | some r => return r
      | none =>
        try
          let x ← calculateFor "[[" a
          let y ← calculateFor "[[" (← i.text right)
          return (compare? op x y).getD false
        catch
          | .broken _ => return false
          | stop => throw stop

/-! ### Compound commands -/

/-- Runs the stages of a pipeline, the first of which reads from the given channel; gives back their
statuses. -/
def stages (i : Interpreter) : Option Channel → List Command → Run (List Nat)
  | _, [] => return []
  | input, c :: rest => do
    let start := (← outside).clock
    let sink ← newSink
    let stage : Run Unit := do
      match input with
      | some i => setChannel 0 (some i)
      | none => pure ()
      if !rest.isEmpty then setChannel 1 (some (.output sink))
      i.nestedly (i.command c)
    if rest.isEmpty && (← hasOption "lastpipe") then
      let before ← channel? 0
      tidily stage (setChannel 0 before)
      return [(← shell).status]
    let status ← inCopy stage
    if rest.isEmpty then return [status]
    let bytes ← drain sink
    let stop := (← outside).clock
    changeOutside fun o => { o with clock := start }
    let next ← newSource bytes stop
    let statuses ← i.stages (some (.input next)) rest
    waitUntil stop
    return status :: statuses

/-- Runs the turns of a loop with a condition. -/
def turns (expected : Bool) (condition body : Run Unit) : Nat → Run Unit
  | 0 => throw .exhausted
  | fuel + 1 => do
    let before := (← shell).status
    guardedly condition
    if ((← shell).status == 0) == expected then
      setStatus before
      if ← turn body then turns expected condition body fuel
    else setStatus before

/-- Runs the turns of a loop over texts. -/
def turnsOver (name : String) (body : Run Unit) : List String → Run Unit
  | [] => return
  | t :: rest => do
    assign name t
    if ← turn body then turnsOver name body rest

/-- Runs the turns of a loop over numbers. -/
def turnsWhile (i : Interpreter) (test step : String) (body : Run Unit) : Nat → Run Unit
  | 0 => throw .exhausted
  | fuel + 1 => do
    let test' ← i.quotedWord test
    let n ← if (Expression.trim test'.toList).isEmpty then pure 1 else calculateFor "((" test'
    if n ≠ 0 then
      if ← turn body then
        let _ ← calculateFor "((" (← i.quotedWord step)
        i.turnsWhile test step body fuel

/-- Whether one of the patterns of a clause fits a text. -/
def fitsAny (i : Interpreter) (subject : List Char) : List Word → Run Bool
  | [] => return false
  | w :: rest => do
    let p := Glob.ofWord (← i.letters w)
    if Glob.fits (← hasOption "nocasematch") p subject then return true
    i.fitsAny subject rest

/-- Runs the clauses whose patterns fit a text. -/
def clauses (i : Interpreter) (subject : List Char) :
    (fallen : Bool) → List (List Word × Command × ClauseEnd) → Run Unit
  | _, [] => return
  | fallen, (patterns, body, ending) :: rest => do
    if fallen || (← i.fitsAny subject patterns) then
      setStatus 0
      i.command body
      match ending with
      | .stop => return
      | .fallThrough => i.clauses subject true rest
      | .tryNext => i.clauses subject false rest
    else i.clauses subject false rest

/-- Runs commands one after the other. -/
def commands (i : Interpreter) : List Command → Run Unit
  | [] => return
  | c :: rest => do
    if !(← hasOption "noexec") then i.command c
    i.commands rest

/-! ### The interpreter -/

/-- Runs a command whose parts another interpreter runs. -/
def runCommand (i : Interpreter) (c : Command) : Run Unit := do
  match c with
  | .simple line as ws =>
    change fun s => { s with line }
    i.simple as ws []
  | .redirected (.simple line as ws) rs =>
    change fun s => { s with line }
    i.simple as ws rs
  | .redirected c rs =>
    let status ← i.withRedirects false rs do
      i.command c
      return (← shell).status
    setStatus status
    i.checkStatus
  | .sequence cs => i.commands cs
  | .group body => i.command body
  | .andThen a b =>
    guardedly (i.command a)
    if (← shell).status == 0 then i.command b
  | .orElse a b =>
    guardedly (i.command a)
    if (← shell).status != 0 then i.command b
  | .pipeline true [c] =>
    guardedly (i.command c)
    setStatus (if (← shell).status == 0 then 1 else 0)
  | .pipeline negated cs =>
    let statuses ← i.stages none cs
    let last := statuses.getLast?.getD 0
    let status ← if ← hasOption "pipefail" then
        pure ((statuses.reverse.find? (· != 0)).getD 0)
      else pure last
    let status := if negated then (if status == 0 then 1 else 0) else status
    change fun s => { s with status, pipeStatus := statuses }
    if !negated then i.checkStatus
  | .background c =>
    let touched := match c with
      | .redirected _ rs => rs.flatMap Redirect.touched
      | _ => []
    let process ← startJob ([1, 2].filter fun d => !touched.contains d)
      (i.nestedly (i.command c))
    putVariable "!" (some { value := .scalar (Text.decimal (processId + process)) })
    setStatus 0
  | .timed c =>
    let start := (← outside).clock
    i.command c
    let millis := ((← outside).clock - start) / 1000000
    let zeros := if millis % 1000 < 10 then "00" else if millis % 1000 < 100 then "0" else ""
    let _ ← write 2 (s!"\nreal\t{Text.decimal (millis / 60000)}m" ++
      s!"{Text.decimal (millis / 1000 % 60)}.{zeros}{Text.decimal (millis % 1000)}s\n" ++
      "user\t0m0.000s\nsys\t0m0.000s\n")
  | .subshell body => i.conclude (← inCopy (i.nestedly (i.command body)))
  | .choice condition body otherwise =>
    guardedly (i.command condition)
    if (← shell).status == 0 then i.command body
    else
      match otherwise with
      | some e => i.command e
      | none => setStatus 0
  | .loop expected condition body =>
    setStatus 0
    inLoop (turns expected (i.command condition) (i.command body) i.fuel)
  | .each name words body =>
    let items ← match words with
      | some ws => i.fields ws
      | none => pure (← shell).positional
    setStatus 0
    if (← binding? name).any Variable.constant && !items.isEmpty then
      complain s!"{name}: readonly variable"
      setStatus 1
    else inLoop (turnsOver name (i.command body) items)
  | .count start test step body =>
    try
      let _ ← calculateFor "((" (← i.quotedWord start)
      setStatus 0
      inLoop (i.turnsWhile test step (i.command body) i.fuel)
    catch
      | .broken status => setStatus status
      | stop => throw stop
  | .switch subject cs =>
    let t ← i.text subject
    setStatus 0
    i.clauses t.toList false cs
  | .function name body =>
    change fun s =>
      { s with functions := (name, body) :: s.functions.filter (·.1 != name), status := 0 }
  | .condition c =>
    let r ← i.holds c
    i.conclude (if r then 0 else 1)
  | .expression text =>
    let text ← i.quotedWord text
    let holds ←
      try pure ((← calculateFor "((" text) ≠ 0 : Bool)
      catch
        | .broken _ => pure false
        | stop => throw stop
    i.conclude (if holds then 0 else 1)

/-- Runs a text line by line; no more lines than so many are run. -/
def runLines (i : Interpreter) (place : String) : Nat → (first : Nat) → List Char → Run Unit
  | 0, _, _ => throw .exhausted
  | _, _, [] => return
  | count + 1, first, text => do
    let text := ended text
    match readCommands first text with
    | .error fault =>
      let _ ← write 2 (faultText ((← shell).origin ++ ":" ++ place) first text fault)
      setStatus 2
    | .ok (c, rest) =>
      change fun s => { s with line := first }
      try i.command c
      catch
        | .broken status => setStatus status
        | stop => throw stop
      let lines := (text.take (text.length - rest.length)).count '\n'
      i.runLines place count (first + lines) rest

/-- The interpreter that goes so many levels deep. -/
def ofFuel : Nat → Interpreter
  | 0 =>
    { fuel := 0
      command := fun _ => throw .exhausted
      source := fun _ _ _ => throw .exhausted }
  | fuel + 1 =>
    { fuel
      command := fun c => (ofFuel fuel).runCommand c
      source := fun place first text => (ofFuel fuel).runLines place (text.length + 2) first text }

end SmokeTest.Shell.Interpreter
