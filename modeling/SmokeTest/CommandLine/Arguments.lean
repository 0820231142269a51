/-
What the words of a command line ask for.

Words are read from left to right, and the first fault, or the first word that asks for help or for
the version, decides. Options may stand anywhere among the other words; of an option that is given
twice the last one counts.

Main definitions:

* `Arguments` — what a run is asked to do;
* `Group` — the words that belong together: a switch, an option with its value, any other word;
* `Group.words` — how a group is written;
* `Draft.take` — what a group adds to what has been read so far;
* `Demand.ofWords` — what a command line asks for, or its fault.

Design notes: only two dashes make an option, so that a filter may begin with one. The word behind
an option is its value, whatever it looks like.
-/
import SmokeTest.Text.Numeral

namespace SmokeTest.CommandLine

/-- The number of passes that are listed as the slowest where nothing else is said. -/
def defaultTop : Nat := 5

/-- What can be asked for besides the source, the tag and the filter. -/
structure Settings where
  /-- How many of the slowest passes are listed. -/
  top : Nat := defaultTop
  /-- What the names of added variables begin with. -/
  nameStart : Option String := none
  /-- Where commands are run. -/
  directory : Option String := none
  verbose : Bool := false
  noColor : Bool := false
  deriving DecidableEq, Repr, Inhabited

/-- What a run is asked to do. -/
structure Arguments where
  source : String
  tag : String
  filter : Option String := none
  settings : Settings := {}
  deriving DecidableEq, Repr, Inhabited

/-- What a command line asks for. -/
inductive Demand
  | help
  | version
  | run (arguments : Arguments)
  deriving DecidableEq, Repr, Inhabited

/-- The options that need no value. -/
inductive Switch
  | verbose
  | noColor
  deriving DecidableEq, Repr, Inhabited

/-- The options that the word behind them belongs to. -/
inductive Parameter
  | top
  | nameStart
  | directory
  deriving DecidableEq, Repr, Inhabited

/-- What is wrong with a command line. -/
inductive UsageError
  /-- An option is the last word and has no value. -/
  | missing (p : Parameter)
  /-- The number of passes is none. -/
  | badTop (word : String)
  /-- No option is called like this. -/
  | unknown (word : String)
  /-- There is nothing that a fourth word could mean. -/
  | unexpected (word : String)
  /-- There has to be a source and a tag. -/
  | tooFew
  deriving DecidableEq, Repr, Inhabited

/-! ### Words -/

/-- Whether a word asks for help. -/
def isHelp (word : String) : Bool := word == "--help" || word == "-h"

/-- Whether a word asks for the version. -/
def isVersion (word : String) : Bool := word == "--version" || word == "-V"

/-- The words that name a switch. -/
def Switch.names : Switch → List String
  | verbose => ["--verbose", "-v"]
  | noColor => ["--no-color"]

/-- The word that names an option with a value. -/
def Parameter.name : Parameter → String
  | top => "--top"
  | nameStart => "--env-prefix"
  | directory => "--working-dir"

/-- The switch that a word names. -/
def Switch.ofWord? (word : String) : Option Switch :=
  [verbose, noColor].find? fun s => s.names.contains word

/-- The option with a value that a word names. -/
def Parameter.ofWord? (word : String) : Option Parameter :=
  [top, nameStart, directory].find? fun p => p.name == word

/-- Whether a word has the form of an option. -/
def isOption (word : String) : Bool :=
  match word.toList with
  | '-' :: '-' :: _ => true
  | _ => false

/-! ### Groups -/

/-- Words that belong together. -/
inductive Group
  | switch (s : Switch)
  | valued (p : Parameter) (value : String)
  /-- The source, the tag or the filter. -/
  | plain (word : String)
  deriving DecidableEq, Repr, Inhabited

/-- How a group is written. -/
def Group.words : Group → List String
  | switch .verbose => ["--verbose"]
  | switch .noColor => ["--no-color"]
  | valued p value => [p.name, value]
  | plain word => [word]

/-- What has been read of a command line. -/
structure Draft where
  settings : Settings := {}
  /-- The source, the tag and the filter, as far as they have been read. -/
  plain : List String := []
  deriving DecidableEq, Repr, Inhabited

namespace Draft

/-- The number that the value of `--top` writes. -/
def readTop (word : String) : Except UsageError Nat :=
  match Text.readDecimal? Text.wordMax word.toList with
  | some n => .ok n
  | none => .error (.badTop word)

/-- The draft with one more group. -/
def take (d : Draft) : Group → Except UsageError Draft
  | .switch .verbose => .ok { d with settings := { d.settings with verbose := true } }
  | .switch .noColor => .ok { d with settings := { d.settings with noColor := true } }
  | .valued .top value => do
    let top ← readTop value
    return { d with settings := { d.settings with top } }
  | .valued .nameStart value =>
    .ok { d with settings := { d.settings with nameStart := some value } }
  | .valued .directory value =>
    .ok { d with settings := { d.settings with directory := some value } }
  | .plain word =>
    if d.plain.length < 3 then .ok { d with plain := d.plain ++ [word] }
    else .error (.unexpected word)

/-- What a draft amounts to when there are no more words. -/
def finish (d : Draft) : Except UsageError Arguments :=
  match d.plain with
  | source :: tag :: rest => .ok { source, tag, filter := rest.head?, settings := d.settings }
  | _ => .error .tooFew

/-- What the words ask for after those of the draft. -/
def read (d : Draft) : List String → Except UsageError Demand
  | [] => return .run (← d.finish)
  | word :: rest =>
    if isHelp word then .ok .help
    else if isVersion word then .ok .version
    else
      match Switch.ofWord? word with
      | some s => do (← d.take (.switch s)).read rest
      | none =>
        match Parameter.ofWord? word, rest with
        | some p, [] => .error (.missing p)
        | some p, value :: rest => do (← d.take (.valued p value)).read rest
        | none, rest =>
          if isOption word then .error (.unknown word)
          else do (← d.take (.plain word)).read rest

end Draft

/-- What a command line asks for. -/
def Demand.ofWords (words : List String) : Except UsageError Demand :=
  Draft.read {} words

end SmokeTest.CommandLine
