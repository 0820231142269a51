/-
Shell commands as trees.

Main definitions:

* `Word` — text with expansions, which becomes any number of fields when a command is run;
* `Command` — simple commands and what is composed of them.

Design notes: what an expansion stands for is kept as it is written and read when it is needed, so
words do not contain commands.
-/

namespace SmokeTest.Shell

/-- A part of a word. -/
inductive Part
  /-- Text outside quotes. -/
  | bare (text : String)
  /-- Text inside quotes. -/
  | quoted (text : String)
  /-- A parameter, with what is written between the braces. -/
  | parameter (source : String) (quoted : Bool)
  /-- What a command writes. -/
  | substitution (source : String) (quoted : Bool)
  /-- The value of an expression. -/
  | arithmetic (source : String) (quoted : Bool)
  /-- The path of a file that holds what a command writes. -/
  | process (source : String)
  deriving DecidableEq, Repr, Inhabited

/-- A word of a command. -/
abbrev Word := List Part

/-- What a redirection does. -/
inductive RedirectKind
  | read
  | write
  | append
  /-- Opens for reading and keeps what is there. -/
  | readWrite
  /-- Makes the descriptor mean what another one means. -/
  | duplicate
  /-- Writes both standard output and standard error. -/
  | writeBoth
  | appendBoth
  /-- The input is the word and a line end. -/
  | hereString
  /-- The input is the word. -/
  | hereText
  deriving DecidableEq, Repr, Inhabited

/-- A redirection of a descriptor. -/
structure Redirect where
  descriptor : Nat
  kind : RedirectKind
  target : Word
  /-- How the target is written. -/
  written : String := ""
  /-- The line that should have ended a text given in the command, if there is none. -/
  missing : Option String := none
  deriving DecidableEq, Repr, Inhabited

/-- The descriptors that a redirection changes. -/
def Redirect.touched (r : Redirect) : List Nat :=
  match r.kind with
  | .writeBoth | .appendBoth => [1, 2]
  | _ => [r.descriptor]

/-- What an assignment gives to a variable. -/
inductive AssignedValue
  | scalar (word : Word)
  | array (words : List Word)
  deriving DecidableEq, Repr, Inhabited

/-- An assignment to a variable or to an element of an array. -/
structure Assignment where
  name : String
  subscript : Option Word := none
  /-- Adds to what is there. -/
  appending : Bool := false
  value : AssignedValue
  deriving DecidableEq, Repr, Inhabited

/-- A conditional expression between double brackets. -/
inductive Condition
  | unary (operator : String) (operand : Word)
  | binary (operator : String) (left right : Word)
  | nonempty (operand : Word)
  | not (c : Condition)
  | and (a b : Condition)
  | or (a b : Condition)
  deriving DecidableEq, Repr, Inhabited

/-- What follows a clause whose pattern fits. -/
inductive ClauseEnd
  /-- The whole command is over. -/
  | stop
  /-- The next clause is run as well. -/
  | fallThrough
  /-- The patterns behind are tried. -/
  | tryNext
  deriving DecidableEq, Repr, Inhabited

/-- A command. -/
inductive Command
  /-- Assignments and words, which begin on the given line. -/
  | simple (line : Nat) (assignments : List Assignment) (words : List Word)
  /-- Commands joined by pipes; the status is turned round if it is negated. -/
  | pipeline (negated : Bool) (stages : List Command)
  | andThen (a b : Command)
  | orElse (a b : Command)
  | sequence (commands : List Command)
  | background (c : Command)
  /-- Tells the time that the command takes. -/
  | timed (c : Command)
  | subshell (body : Command)
  | group (body : Command)
  | choice (condition body : Command) (otherwise : Option Command)
  /-- Repeats while the status of the condition says so. -/
  | loop (expected : Bool) (condition body : Command)
  /-- Runs for every field of the words, or for the positional parameters. -/
  | each (name : String) (words : Option (List Word)) (body : Command)
  /-- Runs with an expression before, one to be tested, and one after each turn. -/
  | count (start test step : String) (body : Command)
  | switch (subject : Word) (clauses : List (List Word × Command × ClauseEnd))
  | function (name : String) (body : Command)
  | condition (c : Condition)
  | expression (source : String)
  | redirected (c : Command) (redirects : List Redirect)
  deriving Repr, Inhabited

namespace Command

/-- The command that does nothing. -/
def nothing : Command := sequence []

/-- The command with its redirections, if there are any. -/
def withRedirects (c : Command) (redirects : List Redirect) : Command :=
  if redirects.isEmpty then c else redirected c redirects

end Command

end SmokeTest.Shell
