/-
What a shell knows, and what is outside of it.

Main definitions:

* `Shell` — variables, functions, options and descriptors of one shell;
* `Outside` — files, the texts that are read and written, and the clock;
* `Run` — a computation that uses both and can stop early.

Design notes: descriptors name sources and sinks outside of the shell by number, so a subshell that
has a copy of them reads and writes the same texts. A shell that is left keeps what it did outside.
-/
import SmokeTest.FileTree
import SmokeTest.Shell.Bytes
import SmokeTest.Shell.Command
import SmokeTest.Text.Numeral

namespace SmokeTest.Shell

/-- What a descriptor means. -/
inductive Channel
  | input (source : Nat)
  | output (sink : Nat)
  /-- Writes at the end of a file. -/
  | file (place : Location)
  | nowhere
  deriving DecidableEq, Repr, Inhabited

/-- The value of a variable. -/
inductive Value
  | scalar (text : String)
  /-- Elements by number, in their order. -/
  | array (elements : List (Nat × String))
  /-- Elements by name. -/
  | table (elements : List (String × String))
  deriving DecidableEq, Repr, Inhabited

/-- A variable. -/
structure Variable where
  value : Value
  /-- Is part of the environment of commands. -/
  exported : Bool := false
  constant : Bool := false
  /-- Takes the values of expressions. -/
  integer : Bool := false
  deriving DecidableEq, Repr, Inhabited

/-- One shell. -/
structure ShellState where
  bindings : List (String × Variable) := []
  /-- Entries of the environment whose names are no names of variables. -/
  strays : List (String × String) := []
  positional : List String := []
  zero : String := "bash"
  functions : List (String × Command) := []
  channels : List (Nat × Channel) := []
  directory : Location := []
  /-- The status of the last command. -/
  status : Nat := 0
  /-- The statuses of the commands of the last pipeline. -/
  pipeStatus : List Nat := [0]
  /-- The option names that are on, one letter each or a word. -/
  options : List String := []
  /-- Is inside a condition, where a failure does not end the shell. -/
  guarded : Bool := false
  /-- Is a subshell. -/
  nested : Bool := false
  traps : List (String × String) := []
  /-- The variables that functions have made their own, with what they were before. -/
  frames : List (List (String × Option Variable)) := []
  /-- The status of the last substitution since a command began. -/
  substituted : Option Nat := none
  /-- The line that is being run. -/
  line : Nat := 1
  /-- What complaints begin with. -/
  origin : String := "bash"
  /-- What complaints begin with inside a function. -/
  functionOrigin : String := "environment"
  /-- The command on whose behalf expressions are evaluated. -/
  speaker : String := ""
  /-- The number of loops around the command that is being run. -/
  loops : Nat := 0
  /-- The number of the process that the shell is. -/
  process : Nat := 0
  /-- The place of the next letter in the argument that options are taken from. -/
  letterPlace : Nat := 1
  /-- The mask for new files. -/
  mask : String := "0022"
  aliases : List (String × String) := []
  /-- The functions that are being run, the innermost first. -/
  callers : List String := []
  deriving Inhabited

/-- Something that has been written at some time. -/
structure Chunk where
  time : Nat
  /-- The process that has written it. -/
  process : Nat
  bytes : List UInt8
  deriving Inhabited

/-- A command that runs beside the shell. -/
structure Job where
  process : Nat
  /-- When it ends. -/
  finish : Nat
  /-- The status it ends with. -/
  status : Nat
  /-- The sinks that it can write to until it ends. -/
  sinks : List Nat
  deriving Inhabited

/-- Something that can be read once it is there. -/
structure Source where
  bytes : List UInt8
  ready : Nat := 0
  deriving Inhabited

/-- What is outside of a shell. -/
structure Outside where
  files : FileTree := {}
  sources : Array Source := #[]
  sinks : Array (Array Chunk) := #[]
  /-- Nanoseconds. -/
  clock : Nat := 0
  jobs : List Job := []
  /-- The number of processes that have been started. -/
  started : Nat := 0
  /-- The number of files that have been made up for processes. -/
  made : Nat := 0
  /-- Where random numbers come from. -/
  seed : Nat := 20011
  deriving Inhabited

/-- A shell and what is outside. -/
structure Machine where
  shell : ShellState
  outside : Outside
  deriving Inhabited

/-- Why a shell does not go on. -/
inductive Stop
  | exit (status : Nat)
  /-- A signal ends the main shell. -/
  | killed (signal : Nat)
  /-- A function is left. -/
  | leave (status : Nat)
  /-- So many loops are left. -/
  | endLoop (loops : Nat)
  /-- So many loops are left, the last of which goes on with its next turn. -/
  | nextTurn (loops : Nat)
  /-- An expansion cannot be done. -/
  | broken (status : Nat)
  /-- The fuel is used up. -/
  | exhausted
  deriving DecidableEq, Repr, Inhabited

/-- A computation of a shell. -/
abbrev Run := ExceptT Stop (StateM Machine)

namespace Run

/-- The shell. -/
def shell : Run ShellState := do return (← get).shell

/-- What is outside. -/
def outside : Run Outside := do return (← get).outside

/-- Changes the shell. -/
def change (f : ShellState → ShellState) : Run Unit :=
  modify fun m => { m with shell := f m.shell }

/-- Changes what is outside. -/
def changeOutside (f : Outside → Outside) : Run Unit :=
  modify fun m => { m with outside := f m.outside }

/-- Sets the status of the last command. -/
def setStatus (status : Nat) : Run Unit :=
  change fun s => { s with status }

/-- Whether an option is on. -/
def hasOption (name : String) : Run Bool := do
  return (← shell).options.contains name

/-- Turns an option on or off. -/
def setOption (name : String) (on : Bool) : Run Unit :=
  change fun s =>
    let others := s.options.filter (· != name)
    { s with options := if on then name :: others else others }

/-! ### Reading and writing -/

/-- Writes bytes to a channel. -/
def writeTo (c : Channel) (bytes : List UInt8) : Run Unit := do
  let process := (← shell).process
  changeOutside fun o =>
    match c with
    | .output sink =>
      let chunk : Chunk := ⟨o.clock, process, bytes⟩
      { o with sinks := o.sinks.modify sink fun chunks => chunks.push chunk }
    | .file place =>
      match o.files.entry? place with
      | some (.file old) => { o with files := o.files.put place (.file (old ++ bytes)) }
      | none => { o with files := o.files.put place (.file bytes) }
      | _ => o
    | .input _ | .nowhere => o

/-- What a descriptor means. -/
def channel? (descriptor : Nat) : Run (Option Channel) := do
  return (← shell).channels.lookup descriptor

/-- Writes text to a descriptor; says whether that is possible. -/
def write (descriptor : Nat) (text : String) : Run Bool := do
  match ← channel? descriptor with
  | some (.input _) | none => return false
  | some c =>
    writeTo c (toBytes text)
    return true

/-- Writes a message about what is wrong. -/
def complain (message : String) : Run Unit := do
  let s ← shell
  let _ ← write 2 s!"{s.origin}: line {Text.decimal s.line}: {message}\n"

/-- Lets time pass up to some moment. -/
def waitUntil (moment : Nat) : Run Unit :=
  changeOutside fun o => { o with clock := max o.clock moment }

/-- Makes a source with the given bytes, which are there from some time on. -/
def newSource (bytes : List UInt8) (ready : Nat) : Run Nat := do
  let n := (← outside).sources.size
  changeOutside fun o => { o with sources := o.sources.push { bytes, ready } }
  return n

/-- Makes a sink. -/
def newSink : Run Nat := do
  let n := (← outside).sinks.size
  changeOutside fun o => { o with sinks := o.sinks.push #[] }
  return n

/-- When nobody can write to a sink any more. -/
def closing (o : Outside) (sink : Nat) : Nat :=
  (o.jobs.filter fun j => j.sinks.contains sink).foldl (fun t j => max t j.finish) o.clock

/-- What has been written to a sink, in the order of time. -/
def contents (o : Outside) (sink : Nat) : List UInt8 :=
  let chunks := ((o.sinks[sink]?).getD #[]).toList
  (chunks.mergeSort fun a b => a.time ≤ b.time).flatMap Chunk.bytes

/-- Waits until nobody can write to a sink any more; gives what has been written to it. The sink is
empty afterwards. -/
def drain (sink : Nat) : Run (List UInt8) := do
  let o ← outside
  waitUntil (closing o sink)
  changeOutside fun o => { o with sinks := o.sinks.modify sink fun _ => #[] }
  return contents o sink

/-- What is left to be read from a descriptor, as soon as it is there. -/
def pending (descriptor : Nat) : Run (List UInt8) := do
  match ← channel? descriptor with
  | some (.input source) =>
    let s := ((← outside).sources[source]?).getD { bytes := [] }
    waitUntil s.ready
    return s.bytes
  | _ => return []

/-- Leaves something to be read from a descriptor. -/
def leave (descriptor : Nat) (rest : List UInt8) : Run Unit := do
  match ← channel? descriptor with
  | some (.input source) =>
    changeOutside fun o =>
      { o with sources := o.sources.modify source fun s => { s with bytes := rest } }
  | _ => return

/-- Makes a descriptor mean something, or nothing. -/
def setChannel (descriptor : Nat) (c : Option Channel) : Run Unit :=
  change fun s =>
    let others := s.channels.filter (·.1 != descriptor)
    { s with channels := match c with
      | some c => (descriptor, c) :: others
      | none => others }

/-! ### Variables -/

/-- A variable. -/
def binding? (name : String) : Run (Option Variable) := do
  return (← shell).bindings.lookup name

/-- Puts a variable in the place of the one with the same name. -/
def putVariable (name : String) (v : Option Variable) : Run Unit :=
  change fun s =>
    let others := s.bindings.filter (·.1 != name)
    { s with bindings := match v with
      | some v => (name, v) :: others
      | none => others }

/-- The text of a value where one text is asked for. -/
def valueText : Value → Option String
  | .scalar s => some s
  | .array elements => elements.lookup 0
  | .table elements => elements.lookup "0"

/-- The text of a variable. -/
def textOf? (name : String) : Run (Option String) := do
  return (← binding? name).bind fun v => valueText v.value

/-- Puts an element into a list of elements that is kept in order. -/
def putElement (i : Nat) (text : String) : List (Nat × String) → List (Nat × String)
  | [] => [(i, text)]
  | (j, old) :: rest =>
    if i = j then (i, text) :: rest
    else if i < j then (i, text) :: (j, old) :: rest
    else (j, old) :: putElement i text rest

/-- Gives a variable a text. -/
def assign (name text : String) : Run Unit := do
  match ← binding? name with
  | some v =>
    if v.constant then
      complain s!"{name}: readonly variable"
      throw (.broken 1)
    let value := match v.value with
      | .scalar _ => Value.scalar text
      | .array elements => .array (putElement 0 text elements)
      | .table elements => .table (("0", text) :: elements.filter (·.1 != "0"))
    putVariable name (some { v with value })
  | none =>
    putVariable name (some { value := .scalar text, exported := ← hasOption "allexport" })

/-- The environment of commands. -/
def environment : Run (List (String × String)) := do
  let s ← shell
  let exported := s.bindings.filterMap fun (name, v) =>
    if v.exported then (valueText v.value).map fun text => (name, text) else none
  return exported ++ s.strays

/-! ### Shells in shells -/

/-- Runs something and then something else, also where the first does not go on. -/
def tidily {α : Type} (r : Run α) (after : Run Unit) : Run α := do
  try
    let a ← r
    after
    return a
  catch stop =>
    after
    throw stop

/-- Runs something in a copy of the shell; gives back the status it ends with. -/
def inCopy (r : Run Unit) : Run Nat := do
  let saved ← shell
  change fun s => { s with nested := true, loops := 0 }
  let status ←
    try
      r
      pure (← shell).status
    catch
      | .exit status | .leave status | .broken status => pure status
      | .endLoop _ | .nextTurn _ => pure (← shell).status
      | stop => throw stop
  change fun _ => saved
  return status

/-- Runs something where a failure does not end the shell. -/
def guardedly {α : Type} (r : Run α) : Run α := do
  let saved := (← shell).guarded
  change fun s => { s with guarded := true }
  tidily r (change fun s => { s with guarded := saved })

/-- Runs something inside one more loop. -/
def inLoop {α : Type} (r : Run α) : Run α := do
  change fun s => { s with loops := s.loops + 1 }
  tidily r (change fun s => { s with loops := s.loops - 1 })

/-! ### Jobs -/

/-- The sinks that the descriptors mean. -/
def sinksOf (channels : List (Nat × Channel)) : List Nat :=
  channels.filterMap fun
    | (_, .output sink) => some sink
    | _ => none

/-- Undoes what a process has written after some time. -/
def silence (process moment : Nat) : Run Unit :=
  changeOutside fun o =>
    { o with sinks := o.sinks.map fun chunks =>
      chunks.filter fun c => c.process != process || c.time ≤ moment }

/-- The number of the process of the main shell. -/
def processId : Nat := 4242

/-- The number of a new process. -/
def newProcess : Run Nat := do
  changeOutside fun o => { o with started := o.started + 1 }
  return (← outside).started

/-- Starts something beside the shell, which may keep writing to the given descriptors; gives the
number of its process. -/
def startJob (kept : List Nat) (r : Run Unit) : Run Nat := do
  let process ← newProcess
  let start := (← outside).clock
  let channels := (← shell).channels.filter fun (d, _) => kept.contains d
  let status ← inCopy do
    change fun s => { s with process }
    setChannel 0 (some .nowhere)
    r
  changeOutside fun o =>
    let job : Job := { process, finish := o.clock, status, sinks := sinksOf channels }
    { o with jobs := o.jobs ++ [job], clock := start }
  return process

/-- Ends a job at once; says whether it is there. -/
def endJob (process status : Nat) : Run Bool := do
  let o ← outside
  match o.jobs.find? fun j => j.process == process with
  | none => return false
  | some j =>
    if o.clock < j.finish then
      silence process o.clock
      changeOutside fun o => { o with jobs := o.jobs.map fun j =>
        if j.process == process then { j with finish := o.clock, status } else j }
    return true

/-- Waits for a job; gives its status if it is there. -/
def awaitJob (process : Nat) : Run (Option Nat) := do
  match (← outside).jobs.find? fun j => j.process == process with
  | none => return none
  | some j =>
    waitUntil j.finish
    return some j.status

/-- Waits for all jobs. -/
def awaitJobs : Run Unit := do
  for j in (← outside).jobs do waitUntil j.finish

end Run

end SmokeTest.Shell
