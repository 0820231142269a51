/-
Commands of a system that are no part of the shell: what they are given and what they do.

Main definitions:

* `Call` — what a command is given;
* `Effect` — what it does;
* `Utility.options` — options and operands among its arguments;
* `Utility.onText` — the effect of a command that turns one text into another.

Design notes: a command reads its input as a whole and writes its output as a whole.
-/
import SmokeTest.FileTree
import SmokeTest.Shell.Bytes
import SmokeTest.Text.Numeral

namespace SmokeTest.Shell

/-- What a command is given. -/
structure Call where
  name : String
  arguments : List String
  input : List UInt8 := []
  directory : Location := []
  files : FileTree := {}
  environment : List (String × String) := []
  deriving Inhabited

/-- What a command does. -/
structure Effect where
  output : List UInt8 := []
  errors : String := ""
  status : Nat := 0
  /-- The files afterwards, where the command changes them. -/
  files : Option FileTree := none
  /-- Whether the command reads its input. -/
  reads : Bool := false
  /-- Nanoseconds. -/
  took : Nat := 0
  deriving Inhabited

namespace Utility

open Text

/-- Writes a text. -/
def say (text : String) : Effect := { output := toBytes text }

/-- Ends with a status and a message. -/
def refuse (c : Call) (status : Nat) (message : String) : Effect :=
  { status, errors := s!"{c.name}: {message}\n" }

/-- Ends with a message and a hint at where help is found. -/
def misuse (c : Call) (message : String) : Effect :=
  { status := 1
    errors := s!"{c.name}: {message}\nTry '{c.name} --help' for more information.\n" }

/-- Options by letter with their values, and the operands. Options may stand behind operands. An
option that is still waiting for its value takes the next argument. -/
def optionsFrom (valued : List Char) :
    Option Char → List String → List (Char × String) × List String
  | _, [] => ([], [])
  | some c, v :: rest =>
    let (os, operands) := optionsFrom valued none rest
    ((c, v) :: os, operands)
  | none, a :: rest =>
    match a.toList with
    | ['-'] => operand a (optionsFrom valued none rest)
    | ['-', '-'] => ([], rest)
    | '-' :: '-' :: _ => optionsFrom valued none rest
    | '-' :: letters =>
      let (found, waiting) := split letters
      let (os, operands) := optionsFrom valued waiting rest
      (found ++ os, operands)
    | _ => operand a (optionsFrom valued none rest)
where
  /-- One more operand. -/
  operand (a : String) (r : List (Char × String) × List String) :
      List (Char × String) × List String := (r.1, a :: r.2)
  /-- The options of one argument, and the one whose value is the next argument. -/
  split : List Char → List (Char × String) × Option Char
    | [] => ([], none)
    | c :: rest =>
      if valued.contains c then
        if rest.isEmpty then ([], some c) else ([(c, String.ofList rest)], none)
      else
        let (more, p) := split rest
        ((c, "") :: more, p)

/-- Options by letter with their values, and the operands. -/
def options (valued : List Char) (arguments : List String) :
    List (Char × String) × List String :=
  optionsFrom valued none arguments

/-- Whether an option is given. -/
def has (os : List (Char × String)) (c : Char) : Bool := os.any (·.1 == c)

/-- The last value of an option. -/
def value? (os : List (Char × String)) (c : Char) : Option String :=
  (os.reverse.find? (·.1 == c)).map Prod.snd

/-- The number that a text writes. -/
def natural? (s : String) : Option Nat := readDigits? 10 s.toList

/-- The lines of a text; a last line without an end counts. -/
def linesOf (bytes : List UInt8) : List (List Char) :=
  let s := (ofBytes bytes).toList
  let ls := pieces '\n' s
  if ls.getLast? == some [] then ls.dropLast else ls

/-- The text of lines with their ends. -/
def unlines (ls : List (List Char)) : List UInt8 :=
  ls.flatMap fun l => l.map charByte ++ [10]

/-- How many bytes of an endless text anybody can be expected to read. -/
def endless : Nat := 1048576

/-- What is wrong with reading a path, or what is there. -/
def readPath (c : Call) (path : String) : Except String (List UInt8) :=
  if path == "-" then .ok c.input
  else if path == "/dev/zero" then .ok (List.replicate endless 0)
  else
    match c.files.find? c.directory path with
    | some (.file bytes) => .ok bytes
    | some .sink => .ok []
    | some .directory => .error s!"{c.name}: {path}: Is a directory\n"
    | none => .error s!"{c.name}: {path}: No such file or directory\n"

/-- The texts of the operands, or the input where there are none; with what is wrong with them. -/
def readAll (c : Call) (paths : List String) : List (String × List UInt8) × String :=
  let paths := if paths.isEmpty then ["-"] else paths
  let read := paths.map fun p => (p, readPath c p)
  (read.filterMap fun (p, r) => r.toOption.map fun b => (p, b),
    String.join (read.map fun (_, r) => match r with
      | .error e => e
      | .ok _ => ""))

/-- An effect that depends on the texts of the operands. -/
def onTexts (c : Call) (paths : List String) (f : List (String × List UInt8) → List UInt8) :
    Effect :=
  let (texts, errors) := readAll c paths
  { output := f texts, errors, status := if errors.isEmpty then 0 else 1
    reads := paths.isEmpty || paths.contains "-" }

/-- An effect that depends on all texts one behind the other. -/
def onText (c : Call) (paths : List String) (f : List UInt8 → List UInt8) : Effect :=
  onTexts c paths fun texts => f (texts.flatMap Prod.snd)

end Utility

end SmokeTest.Shell
