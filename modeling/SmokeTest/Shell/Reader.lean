/-
Reading shell commands.

Main definitions:

* `Reader.list` — a list of commands;
* `readCommands first text` — the commands up to the end of a line that completes them, and the
  rest;
* `readOperand`, `readQuoted` — the word that a text is, outside and inside of double quotes.

Design notes: the end of a nested text, such as that of a substitution, is found by its brackets and
quotes alone. A text is run line by line, so what is wrong with a line shows only when the lines
before it have been run.
-/
import SmokeTest.Shell.Reader.Condition
import SmokeTest.Shell.Reader.Redirect

namespace SmokeTest.Shell

namespace Reader

/-- Whether the text begins with what ends a list of commands. -/
def endsList (s : List Char) : Bool :=
  match s with
  | [] | ')' :: _ | ';' :: ';' :: _ | ';' :: '&' :: _ => true
  | _ => closingWords.contains (plainWord s)

/-- The name of the function that is defined here, if one is, and the text behind it. -/
def functionName? (s : List Char) : Option (String × List Char) :=
  let name := s.takeWhile fun c => isNameRest c || c == '-' || c == '.'
  match blanksSkipped s.length (s.drop name.length) with
  | '(' :: rest =>
    match blanksSkipped s.length rest with
    | ')' :: rest => if name.isEmpty then none else some (String.ofList name, rest)
    | _ => none
  | _ => none

/-- Assignments, words and redirections of a simple command that begins on the given line. -/
def simple (line : Nat) : Nat → List Assignment → List Word → List Redirect → Reader Command
  | 0, _, _, _ => refuse
  | fuel + 1, as, ws, rs => do
    skipBlanks
    match ← redirect? with
    | some r => simple line fuel as ws (r :: rs)
    | none =>
      let declares := (ws.getLast?.map literalText).any fun w =>
        ["declare", "local", "export", "readonly", "typeset"].contains w
      match ← (if ws.isEmpty then assignment? else pure none) with
      | some a => simple line fuel (a :: as) ws rs
      | none =>
        match ← (if declares then declared? else pure none) with
        | some a => simple line fuel (a :: as) ws rs
        | none =>
          let w ← word
          if w.isEmpty then
            if as.isEmpty && ws.isEmpty && rs.isEmpty then refuse
            if as.isEmpty && ws.length == 1 && (← get).head? == some '(' then
              skip 1
              skipBlanks
              refuse
            return (Command.simple line as.reverse ws.reverse).withRedirects rs.reverse
          simple line fuel as (w :: ws) rs
where
  /-- The assignment of an array behind a word that declares it. -/
  declared? : Reader (Option Assignment) := do
    match onText assignment? (← get) with
    | .ok (some a, rest) =>
      match a.value with
      | .array _ =>
        goOn rest
        return some a
      | .scalar _ => return none
    | _ => return none

mutual

/-- Commands up to something that ends them. Where a line is read on its own, its end is one of
these. -/
def list : Nat → (oneLine : Bool) → Reader (List Command)
  | 0, _ => refuse
  | fuel + 1, oneLine => do
    if oneLine then skipBlanks else skipLines
    if endsList (← get) then return []
    if oneLine && (← get).head? == some '\n' then return []
    let c ← andOr fuel
    skipBlanks
    match ← get with
    | ';' :: ';' :: _ | ';' :: '&' :: _ => return [c]
    | ';' :: rest =>
      goOn rest
      return c :: (← list fuel oneLine)
    | '&' :: rest =>
      goOn rest
      return .background c :: (← list fuel oneLine)
    | '\n' :: rest =>
      if oneLine then return [c]
      goOn rest
      return c :: (← list fuel oneLine)
    | _ => return [c]

/-- Commands of which there has to be at least one. -/
def body : Nat → Reader Command
  | 0 => refuse
  | fuel + 1 => do
    match ← list fuel false with
    | [] => refuse
    | [c] => return c
    | cs => return .sequence cs

/-- Pipelines joined by `&&` and `||`. -/
def andOr : Nat → Reader Command
  | 0 => refuse
  | fuel + 1 => do
    let first ← pipeline fuel
    andOrRest fuel first

/-- What follows the first pipelines that are joined by `&&` and `||`. -/
def andOrRest : Nat → Command → Reader Command
  | 0, _ => refuse
  | fuel + 1, first => do
    skipBlanks
    match ← get with
    | '&' :: '&' :: rest =>
      goOn rest
      skipLines
      let next ← pipeline fuel
      andOrRest fuel (.andThen first next)
    | '|' :: '|' :: rest =>
      goOn rest
      skipLines
      let next ← pipeline fuel
      andOrRest fuel (.orElse first next)
    | _ => return first

/-- Commands joined by pipes. -/
def pipeline : Nat → Reader Command
  | 0 => refuse
  | fuel + 1 => do
    skipBlanks
    if plainWord (← get) == "time" then
      skip 4
      skipBlanks
      if plainWord (← get) == "-p" then skip 2
      skipBlanks
      match ← get with
      | [] | '\n' :: _ | ';' :: _ => return .timed .nothing
      | _ => return .timed (← pipeline fuel)
    if plainWord (← get) == "!" then
      skip 1
      skipBlanks
      match ← get with
      | [] | '\n' :: _ | ';' :: _ => return .pipeline true [.nothing]
      | _ =>
        match ← pipeline fuel with
        | .pipeline negated stages => return .pipeline (!negated) stages
        | c => return .pipeline true [c]
    let stages ← stageList fuel
    match stages with
    | [c] => return c
    | cs => return .pipeline false cs

/-- The stages of a pipeline. -/
def stageList : Nat → Reader (List Command)
  | 0 => refuse
  | fuel + 1 => do
    let c ← command fuel
    skipBlanks
    match ← get with
    | '|' :: '|' :: _ => return [c]
    | '|' :: '&' :: rest =>
      goOn rest
      skipLines
      let both : Redirect := { descriptor := 2, kind := .duplicate, target := [.bare "1"] }
      return c.withRedirects [both] :: (← stageList fuel)
    | '|' :: rest =>
      goOn rest
      skipLines
      return c :: (← stageList fuel)
    | _ => return [c]

/-- A command between pipes. -/
def command : Nat → Reader Command
  | 0 => refuse
  | fuel + 1 => do
    skipBlanks
    let s ← get
    match functionName? s with
    | some (name, rest) =>
      goOn rest
      skipLines
      return .function name (← functionBody fuel)
    | none =>
      match ← compound? fuel s with
      | some c => return c.withRedirects (← redirects fuel)
      | none => simple (← line) fuel [] [] []

/-- The body of a function, which is a command with a closing mark. -/
def functionBody : Nat → Reader Command
  | 0 => refuse
  | fuel + 1 => do
    match ← compound? fuel (← get) with
    | some c => return c.withRedirects (← redirects fuel)
    | none => refuse

/-- A command that has a closing mark, if there is one here. -/
def compound? : Nat → List Char → Reader (Option Command)
  | 0, _ => refuse
  | fuel + 1, s => do
    match s with
    | '(' :: '(' :: rest =>
      match onText (rawUntil (s.length + 1) ')' false s.length) ('(' :: rest) with
      | .ok (inner, after) =>
        if isWrapped inner then
          goOn after
          return some (.expression (String.ofList (inner.drop 1).dropLast))
        else subshell fuel
      | .error fault => throw fault
    | '(' :: _ => subshell fuel
    | _ =>
      let w := plainWord s
      if w == "[[" then
        skip 2
        let c ← condition fuel
        expectWord "]]"
        return some (.condition c)
      else if w == String.singleton openBrace then
        skip 1
        let b ← body fuel
        expectWord (String.singleton closeBrace)
        return some (.group b)
      else if w == "if" then
        skip 2
        return some (← choice fuel)
      else if w == "while" || w == "until" then
        skip 5
        let c ← body fuel
        expectWord "do"
        let b ← body fuel
        expectWord "done"
        return some (.loop (w == "while") c b)
      else if w == "for" then
        skip 3
        return some (← forLoop fuel)
      else if w == "case" then
        skip 4
        let subject ← someWord
        expectWord "in"
        return some (.switch subject (← clauses fuel))
      else if w == "function" then
        skip 8
        skipBlanks
        let name := (← get).takeWhile fun c => !isMeta c
        if name.isEmpty then refuse
        skip name.length
        skipBlanks
        match ← get with
        | '(' :: rest => goOn ((blanksSkipped rest.length rest).drop 1)
        | _ => pure ()
        skipLines
        return some (.function (String.ofList name) (← functionBody fuel))
      else return none

/-- Commands between brackets. -/
def subshell : Nat → Reader (Option Command)
  | 0 => refuse
  | fuel + 1 => do
    skip 1
    let b ← body fuel
    skipLines
    expect ")"
    return some (.subshell b)

/-- A choice behind its first word. -/
def choice : Nat → Reader Command
  | 0 => refuse
  | fuel + 1 => do
    let c ← body fuel
    expectWord "then"
    let b ← body fuel
    skipLines
    match plainWord (← get) with
    | "elif" =>
      skip 4
      return .choice c b (some (← choice fuel))
    | "else" =>
      skip 4
      let e ← body fuel
      expectWord "fi"
      return .choice c b (some e)
    | _ =>
      expectWord "fi"
      return .choice c b none

/-- A loop over fields or numbers behind its first word. -/
def forLoop : Nat → Reader Command
  | 0 => refuse
  | fuel + 1 => do
    skipBlanks
    match ← get with
    | '(' :: '(' :: rest =>
      goOn rest
      let inner ← rawUntil (rest.length + 1) ')' false rest.length
      expect ")"
      skipBlanks
      if (← get).head? == some ';' then skip 1
      expectWord "do"
      let b ← body fuel
      expectWord "done"
      match Text.pieces ';' inner with
      | [start, test, step] =>
        return .count (String.ofList start) (String.ofList test) (String.ofList step) b
      | _ => refuse
    | s =>
      let name := s.takeWhile isNameRest
      if !isName name then refuse
      skip name.length
      skipLines
      let words ←
        if plainWord (← get) == "in" then
          skip 2
          pure (some (← wordList fuel))
        else pure none
      skipBlanks
      if (← get).head? == some ';' then skip 1
      expectWord "do"
      let b ← body fuel
      expectWord "done"
      return .each (String.ofList name) words b

/-- The words up to the end of a line or a semicolon. -/
def wordList : Nat → Reader (List Word)
  | 0 => refuse
  | fuel + 1 => do
    skipBlanks
    let w ← word
    if w.isEmpty then return []
    return w :: (← wordList fuel)

/-- The clauses of a choice by patterns, and its last word. -/
def clauses : Nat → Reader (List (List Word × Command × ClauseEnd))
  | 0 => refuse
  | fuel + 1 => do
    skipLines
    if plainWord (← get) == "esac" then
      skip 4
      return []
    if (← get).head? == some '(' then skip 1
    let patterns ← patternList fuel
    let b ← list fuel false
    skipLines
    let b := Command.sequence b
    match ← get with
    | ';' :: ';' :: '&' :: rest =>
      goOn rest
      return (patterns, b, .tryNext) :: (← clauses fuel)
    | ';' :: ';' :: rest =>
      goOn rest
      return (patterns, b, .stop) :: (← clauses fuel)
    | ';' :: '&' :: rest =>
      goOn rest
      return (patterns, b, .fallThrough) :: (← clauses fuel)
    | _ =>
      expectWord "esac"
      return [(patterns, b, .stop)]

/-- The patterns of a clause and the bracket behind them. -/
def patternList : Nat → Reader (List Word)
  | 0 => refuse
  | fuel + 1 => do
    let w ← someWord
    skipBlanks
    match ← get with
    | '|' :: rest =>
      goOn rest
      return w :: (← patternList fuel)
    | _ =>
      expect ")"
      return [w]

end

end Reader

/-- The text with an end of its last line. -/
def ended (text : List Char) : List Char :=
  match text.getLast? with
  | none | some '\n' | some '\\' => text
  | some _ => text ++ ['\n']

/-- The commands of the first lines that complete them, and the rest of the text, whose lines are
counted from the given number on. -/
def readCommands (first : Nat) (text : List Char) : Except Fault (Command × List Char) := do
  let last := first + text.count '\n'
  let (cs, rest) ← ((Reader.list (8 * text.length + 64) true).run last).run text
  match rest with
  | [] => return (.sequence cs, [])
  | '\n' :: rest => return (.sequence cs, rest)
  | rest => throw (Reader.faultAt rest)

/-- The word that a text is, outside of quotes. -/
def readOperand (text : String) : Except Fault Word := do
  let s := text.toList
  return (← Reader.onText (Reader.parts (fun _ => false) (s.length + 1)) s).1

/-- The word that a text is, inside double quotes. -/
def readQuoted (text : String) : Except Fault Word := do
  let s := text.toList
  return (← Reader.onText (Reader.doubleParts false 0 (s.length + 1)) s).1

end SmokeTest.Shell
