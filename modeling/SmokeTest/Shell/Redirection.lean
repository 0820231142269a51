/-
Redirections.

Main definitions:

* `Interpreter.redirect` — carries out a redirection;
* `Interpreter.withRedirects` — runs something with redirections.
-/
import SmokeTest.Shell.Words

namespace SmokeTest.Shell.Interpreter

open Run

/-- Carries out a redirection; says whether that is possible. -/
def redirect (i : Interpreter) (r : Redirect) : Run Bool := do
  let opened (c : Except String Channel) (descriptors : List Nat) : Run Bool := do
    match c with
    | .ok c =>
      for d in descriptors do setChannel d (some c)
      return true
    | .error e =>
      complain e
      return false
  match r.kind with
  | .hereString =>
    let n ← newSource (toBytes ((← i.text r.target) ++ "\n")) 0
    opened (.ok (.input n)) [r.descriptor]
  | .hereText =>
    let t ← i.text r.target
    match r.missing with
    | some delimiter =>
      let s ← shell
      let last := Text.decimal (s.line + t.toList.count '\n')
      let _ ← write 2 (s!"{s.origin}: line {last}: warning: here-document at line " ++
        s!"{Text.decimal s.line} delimited by end-of-file (wanted \x60{delimiter}')\n")
    | none => pure ()
    let n ← newSource (toBytes t) 0
    opened (.ok (.input n)) [r.descriptor]
  | .duplicate =>
    let t ← i.text r.target
    if t == "-" then
      setChannel r.descriptor none
      return true
    match (Text.readDigits? 10 t.toList) with
    | none => opened (.error s!"{r.written}: ambiguous redirect") []
    | some n =>
      match ← channel? n with
      | some c => opened (.ok c) [r.descriptor]
      | none => opened (.error s!"{t}: Bad file descriptor") []
  | kind =>
    match ← i.wordFields r.target with
    | [path] =>
      match kind with
      | .read => opened (← openToRead path) [r.descriptor]
      | .readWrite =>
        let c ← openToWrite path true
        match c with
        | .ok (.file _) => opened (← openToRead path) [r.descriptor]
        | c => opened c [r.descriptor]
      | .writeBoth => opened (← openToWrite path false) [1, 2]
      | .appendBoth => opened (← openToWrite path true) [1, 2]
      | .append => opened (← openToWrite path true) [r.descriptor]
      | _ => opened (← openToWrite path false) [r.descriptor]
    | _ => opened (.error s!"{r.written}: ambiguous redirect") []

/-- Runs something with redirections; they are taken back unless they are to stay. -/
def withRedirects (i : Interpreter) (stay : Bool) (rs : List Redirect) (r : Run Nat) : Run Nat := do
  let before ← (rs.flatMap Redirect.touched).mapM fun d => do return (d, ← channel? d)
  let restore : Run Unit := do
    if !stay then for (d, c) in before do setChannel d c
  try
    for r in rs do
      if !(← i.redirect r) then
        restore
        return 1
    let status ← r
    restore
    return status
  catch stop =>
    restore
    throw stop

end SmokeTest.Shell.Interpreter
