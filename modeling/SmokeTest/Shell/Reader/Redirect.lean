/-
Reading redirections and assignments.

Main definitions:

* `Reader.redirect?` — a redirection, if one comes next;
* `Reader.assignment?` — an assignment, if one comes next.
-/
import SmokeTest.Shell.Reader.Word

namespace SmokeTest.Shell.Reader

/-- The lines up to the one that ends a text given in the command, that line left out. -/
def hereLines (tabs : Bool) (delimiter : List Char) :
    List (List Char) → List (List Char) × List (List Char)
  | [] => ([], [])
  | line :: rest =>
    let line := if tabs then line.dropWhile (· == '\t') else line
    if line == delimiter then ([], rest)
    else
      let (inside, after) := hereLines tabs delimiter rest
      (line :: inside, after)

/-- A text given in the command: cuts it out of the lines behind this one. Gives its word, and the
line that should have ended it if there is none. -/
def hereText (tabs : Bool) : Reader (Word × Option String) := do
  skipBlanks
  let w ← someWord
  let s ← get
  let line := s.takeWhile (· != '\n')
  let delimiter := literalText w
  match s.drop line.length with
  | [] => return ([.quoted ""], some delimiter)
  | _ :: below =>
    let lines := Text.pieces '\n' below
    let lines := if lines.getLast? == some [] then lines.dropLast else lines
    let (inside, after) := hereLines tabs delimiter.toList lines
    let isEnded := inside.length < lines.length
    let text := inside.flatMap fun l => l ++ ['\n']
    goOn (line ++ '\n' :: after.flatMap fun l => l ++ ['\n'])
    let missing := if isEnded then none else some delimiter
    if hasQuotes w then return ([.quoted (String.ofList text)], missing)
    else
      match onText (doubleParts false 0 (text.length + 1)) text with
      | .ok (parts, _) => return (parts, missing)
      | .error e => throw e

/-- The operator of a redirection: its kind, the descriptor that it is about where none is written,
and its length. -/
def redirectOperator? : List Char → Option (RedirectKind × Nat × Nat)
  | '&' :: '>' :: '>' :: _ => some (.appendBoth, 1, 3)
  | '&' :: '>' :: _ => some (.writeBoth, 1, 2)
  | '<' :: '<' :: '<' :: _ => some (.hereString, 0, 3)
  | '<' :: '<' :: '-' :: _ => some (.hereText, 0, 3)
  | '<' :: '<' :: _ => some (.hereText, 0, 2)
  | '<' :: '>' :: _ => some (.readWrite, 0, 2)
  | '<' :: '&' :: _ => some (.duplicate, 0, 2)
  | '<' :: '(' :: _ => none
  | '<' :: _ => some (.read, 0, 1)
  | '>' :: '>' :: _ => some (.append, 1, 2)
  | '>' :: '|' :: _ => some (.write, 1, 2)
  | '>' :: '&' :: _ => some (.duplicate, 1, 2)
  | '>' :: '(' :: _ => none
  | '>' :: _ => some (.write, 1, 1)
  | _ => none

/-- Whether a word can say which descriptor is meant. -/
def namesDescriptor (w : Word) : Bool :=
  match w with
  | [.bare s] => s == "-" || s.toList.all Char.isDigit
  | _ => !hasQuotes w

/-- A redirection, if there is one here. -/
def redirect? : Reader (Option Redirect) := do
  let s ← get
  let digits := s.takeWhile Char.isDigit
  let number := (Text.readDigits? 10 digits).filter fun _ => digits.length ≤ 4
  if !digits.isEmpty && (s.drop digits.length).head? == some '&' then return none
  match redirectOperator? (s.drop digits.length) with
  | none => return none
  | some (kind, usual, size) =>
    skip (digits.length + size)
    let descriptor := number.getD usual
    match kind with
    | .hereText =>
      let (target, missing) ← hereText (size == 3)
      return some { descriptor, kind, target, missing }
    | _ =>
      skipBlanks
      let before ← get
      let target ← someWord
      let written := String.ofList (before.take (before.length - (← get).length))
      if kind == .duplicate && usual == 1 && number.isNone && !namesDescriptor target then
        return some { descriptor := 1, kind := .writeBoth, target, written }
      return some { descriptor, kind, target, written }

/-- The redirections behind a command. -/
def redirects : Nat → Reader (List Redirect)
  | 0 => return []
  | fuel + 1 => do
    skipBlanks
    match ← redirect? with
    | some r => return r :: (← redirects fuel)
    | none => return []

/-- The words between the brackets of an array. -/
def arrayWords : Nat → Reader (List Word)
  | 0 => refuse
  | fuel + 1 => do
    skipLines
    match ← get with
    | ')' :: rest =>
      goOn rest
      return []
    | _ =>
      let w ← someWord
      return w :: (← arrayWords fuel)

/-- An assignment, if there is one here. -/
def assignment? : Reader (Option Assignment) := do
  let s ← get
  let name := s.takeWhile isNameRest
  if !isName name then return none
  let after := s.drop name.length
  let (subscript, after) ← match after with
    | '[' :: rest =>
      match onText (rawUntil (rest.length + 1) ']' false 0) rest with
      | .ok (raw, after) =>
        match onText (parts (fun _ => false) (raw.length + 1)) raw with
        | .ok (w, _) => pure (some w, after)
        | .error e => throw e
      | .error _ => return none
    | after => pure (none, after)
  let (appending, after) := match after with
    | '+' :: '=' :: rest => (true, '=' :: rest)
    | after => (false, after)
  match after with
  | '=' :: '(' :: rest =>
    goOn rest
    let words ← arrayWords (rest.length + 1)
    return some ⟨String.ofList name, subscript, appending, .array words⟩
  | '=' :: rest =>
    goOn rest
    return some ⟨String.ofList name, subscript, appending, .scalar (← word)⟩
  | _ => return none

end SmokeTest.Shell.Reader
