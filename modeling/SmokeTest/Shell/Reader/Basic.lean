/-
Readers of shell texts.

Main definitions:

* `Fault` — why a text cannot be read;
* `Reader` — takes something from the front of a text, knowing the line at which the text ends;
* `Reader.refuse` — the fault of a text that cannot go on as it does.
-/
import SmokeTest.Shell.Command
import SmokeTest.Text.Split

namespace SmokeTest.Shell

/-- Why a text is no command. Places are given by the number of characters from there on. -/
inductive Fault
  /-- Something stands where it cannot stand. -/
  | unexpected (token : String) (place : Nat)
  /-- The text ends within a command. -/
  | unexpectedEnd
  /-- A bracket or quote is not closed. -/
  | unclosed (mark : Char) (place : Nat)
  /-- A condition makes no sense. -/
  | condition (message : String) (token : String) (place : Nat)
  deriving DecidableEq, Repr, Inhabited

/-- A reader of texts, which knows the number of the line behind the text. -/
abbrev Reader := ReaderT Nat (StateT (List Char) (Except Fault))

namespace Reader

/-- What a reader makes of a text of its own. -/
def onText {α : Type} (r : Reader α) (s : List Char) : Except Fault (α × List Char) :=
  (r.run 0).run s

/-- The number of the line that is being read. -/
def line : Reader Nat := do
  return (← read) - (← get).count '\n'

/-- The brace that opens a group or an expansion. -/
def openBrace : Char := '\x7b'

/-- The brace that closes a group or an expansion. -/
def closeBrace : Char := '\x7d'

/-- The mark around an old-fashioned substitution. -/
def backquote : Char := '\x60'

/-- The words that have a meaning of their own where a command begins, and end what is before. -/
def closingWords : List String :=
  ["then", "do", "done", "fi", "elif", "else", "esac", "\x7d"]

/-- Whether a character ends a word. -/
def isMeta (c : Char) : Bool :=
  [' ', '\t', '\n', ';', '&', '|', '<', '>', '(', ')'].contains c

/-- Whether a character can begin a name. -/
def isNameStart (c : Char) : Bool :=
  c.isAlpha || c == '_'

/-- Whether a character can go on a name. -/
def isNameRest (c : Char) : Bool :=
  c.isAlphanum || c == '_'

/-- Whether a text is the name of a variable. -/
def isName (s : List Char) : Bool :=
  s.head?.any isNameStart && s.all isNameRest

/-- Consumes so many characters. -/
def skip (n : Nat) : Reader Unit :=
  modify fun s => s.drop n

/-- Goes on at another text. -/
def goOn (s : List Char) : Reader Unit :=
  set s

/-- The text without line ends behind backslashes and without blanks, as far as it begins with
them; a comment is skipped as well. -/
def blanksSkipped : Nat → List Char → List Char
  | fuel + 1, '\\' :: '\n' :: rest => blanksSkipped fuel rest
  | fuel + 1, c :: rest =>
    if c == ' ' || c == '\t' then blanksSkipped fuel rest
    else if c == '#' then rest.dropWhile (· != '\n')
    else c :: rest
  | _, s => s

/-- Skips blanks and a comment. -/
def skipBlanks : Reader Unit :=
  modify fun s => blanksSkipped s.length s

/-- The text without blanks, comments and line ends, as far as it begins with them. -/
def linesSkipped : Nat → List Char → List Char
  | fuel + 1, s =>
    match blanksSkipped s.length s with
    | '\n' :: rest => linesSkipped fuel rest
    | s => s
  | 0, s => s

/-- Skips blanks, comments and line ends. -/
def skipLines : Reader Unit :=
  modify fun s => linesSkipped s.length s

/-- The plain word that a text begins with, if what follows it ends a word. -/
def plainWord (s : List Char) : String :=
  let w := s.takeWhile fun c => c.isAlphanum || "!_-[]\x7b\x7d".toList.contains c
  match s.drop w.length with
  | [] => String.ofList w
  | c :: _ => if isMeta c then String.ofList w else ""

/-- What stands at the place of a fault. -/
def faultAt (s : List Char) : Fault :=
  match s with
  | [] => .unexpectedEnd
  | '\n' :: _ => .unexpected "newline" s.length
  | ';' :: ';' :: _ => .unexpected ";;" s.length
  | '&' :: '&' :: _ => .unexpected "&&" s.length
  | '|' :: '|' :: _ => .unexpected "||" s.length
  | c :: _ =>
    if isMeta c then .unexpected (String.singleton c) s.length
    else .unexpected (String.ofList (s.takeWhile fun c => !isMeta c)) s.length

/-- Refuses what stands here. -/
def refuse {α : Type} : Reader α := do
  throw (faultAt (← get))

/-- Consumes the given text, which has to stand here. -/
def expect (text : String) : Reader Unit := do
  match Text.dropPrefix? text.toList (← get) with
  | some rest => goOn rest
  | none => refuse

/-- Consumes the given word, behind blanks and line ends. -/
def expectWord (w : String) : Reader Unit := do
  skipLines
  if plainWord (← get) == w then skip w.length else refuse

end Reader

end SmokeTest.Shell
