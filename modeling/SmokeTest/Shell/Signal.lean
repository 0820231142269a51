/-
Signals: their names and numbers, and what they do to a process.
-/
import SmokeTest.Text.Numeral
import SmokeTest.Text.Split

namespace SmokeTest.Shell.Signal

/-- The signals by name. -/
def all : List (String × Nat) :=
  [("HUP", 1), ("INT", 2), ("QUIT", 3), ("ILL", 4), ("TRAP", 5), ("ABRT", 6), ("BUS", 7), ("FPE", 8),
    ("KILL", 9), ("USR1", 10), ("SEGV", 11), ("USR2", 12), ("PIPE", 13), ("ALRM", 14), ("TERM", 15),
    ("STKFLT", 16), ("CHLD", 17), ("CONT", 18), ("STOP", 19), ("TSTP", 20), ("TTIN", 21),
    ("TTOU", 22), ("URG", 23), ("XCPU", 24), ("XFSZ", 25), ("VTALRM", 26), ("PROF", 27),
    ("WINCH", 28), ("IO", 29), ("PWR", 30), ("SYS", 31)]

/-- Whether the signal leaves a process alone unless something else is asked for. -/
def isHarmless (n : Nat) : Bool := [0, 17, 18, 19, 20, 21, 22, 23, 28].contains n

/-- What else something can be done on. -/
def isEvent (name : String) : Bool := ["EXIT", "ERR", "DEBUG", "RETURN"].contains name

/-- The number of the signal with a name; the end of the shell counts as zero. -/
def number? (name : String) : Option Nat :=
  if name == "EXIT" then some 0 else all.lookup name

/-- The name of the signal with a number. -/
def name? (n : Nat) : Option String := (all.find? (·.2 == n)).map Prod.fst

/-- A name in capital letters, without the beginning that all names can have. -/
def plainName (s : String) : String :=
  let s := s.toUpper.toList
  String.ofList ((Text.dropPrefix? "SIG".toList s).getD s)

/-- The number of the signal that a text names. -/
def ofText? (s : String) : Option Nat :=
  match Text.readDigits? 10 s.toList with
  | some n => if n ≤ 64 then some n else none
  | none => all.lookup (plainName s)

/-- What a text names that something can be done on. -/
def trapName? (s : String) : Option String :=
  match Text.readDigits? 10 s.toList with
  | some 0 => some "EXIT"
  | some n => name? n
  | none =>
    let n := plainName s
    if isEvent n || (all.lookup n).isSome then some n else none

end SmokeTest.Shell.Signal
