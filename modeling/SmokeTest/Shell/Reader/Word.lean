/-
Reading words.

Main definitions:

* `Reader.rawUntil` — a nested text as it is written, up to the sign that closes it;
* `Reader.parts` — the parts of a word;
* `Reader.word` and `Reader.regexWord` — a word, or a regular expression of a condition.

Design notes: what stands inside an expansion is kept as text and read when the expansion is carried
out. Up to then only its end is looked for.
-/
import SmokeTest.Shell.Escape
import SmokeTest.Shell.Reader.Basic

namespace SmokeTest.Shell.Reader

/-! ### Nested texts -/

mutual

/-- The text up to the closing mark of a bracket whose opening mark has been consumed. Inside double
quotes a single quote is a character like any other. -/
def rawUntil : Nat → (close : Char) → (inDouble : Bool) → (place : Nat) → Reader (List Char)
  | 0, close, _, place => throw (.unclosed close place)
  | fuel + 1, close, inDouble, place => do
    match ← get with
    | [] => throw (.unclosed close place)
    | '\\' :: c :: rest =>
      goOn rest
      return '\\' :: c :: (← rawUntil fuel close inDouble place)
    | '$' :: '(' :: rest =>
      goOn rest
      let inner ← rawUntil fuel ')' false 0
      return '$' :: '(' :: inner ++ ')' :: (← rawUntil fuel close inDouble place)
    | c :: rest =>
      goOn rest
      if c == close then return []
      else if c == '"' then
        let inner ← rawDouble fuel rest.length
        return '"' :: inner ++ '"' :: (← rawUntil fuel close inDouble place)
      else if c == '\'' && !inDouble then
        let inner := rest.takeWhile (· != '\'')
        match rest.drop inner.length with
        | [] => throw (.unclosed '\'' rest.length)
        | _ :: after =>
          goOn after
          return '\'' :: inner ++ '\'' :: (← rawUntil fuel close inDouble place)
      else if c == '$' && rest.head? == some openBrace then
        skip 1
        let inner ← rawUntil fuel closeBrace inDouble rest.length
        return '$' :: openBrace :: inner ++ closeBrace :: (← rawUntil fuel close inDouble place)
      else if c == '(' && close == ')' then
        let inner ← rawUntil fuel ')' inDouble place
        return '(' :: inner ++ ')' :: (← rawUntil fuel close inDouble place)
      else return c :: (← rawUntil fuel close inDouble place)

/-- The text up to the double quote that closes one. -/
def rawDouble : Nat → (place : Nat) → Reader (List Char)
  | 0, place => throw (.unclosed '"' place)
  | fuel + 1, place => do
    match ← get with
    | [] => throw (.unclosed '"' place)
    | '"' :: rest =>
      goOn rest
      return []
    | '\\' :: c :: rest =>
      goOn rest
      return '\\' :: c :: (← rawDouble fuel place)
    | '$' :: '(' :: rest =>
      goOn rest
      let inner ← rawUntil fuel ')' false 0
      return '$' :: '(' :: inner ++ ')' :: (← rawDouble fuel place)
    | c :: rest =>
      goOn rest
      if c == '$' && rest.head? == some openBrace then
        skip 1
        let inner ← rawUntil fuel closeBrace true rest.length
        return '$' :: openBrace :: inner ++ closeBrace :: (← rawDouble fuel place)
      else return c :: (← rawDouble fuel place)

end

/-- The text up to the closing mark of an old-fashioned substitution, in which a backslash only
protects itself, dollar signs and the mark. -/
def rawBackquoted (inDouble : Bool) (place : Nat) : Nat → Reader (List Char)
  | 0 => throw (.unclosed backquote place)
  | fuel + 1 => do
    match ← get with
    | [] => throw (.unclosed backquote place)
    | '\\' :: c :: rest =>
      goOn rest
      let more ← rawBackquoted inDouble place fuel
      if c == '\\' || c == '$' || c == backquote || (inDouble && c == '"') then return c :: more
      else return '\\' :: c :: more
    | c :: rest =>
      goOn rest
      if c == backquote then return []
      else return c :: (← rawBackquoted inDouble place fuel)

/-- Whether the first of these brackets is closed by the last character only. -/
def isWrapped (s : List Char) : Bool :=
  closesAtEnd 0 s
where
  /-- The same when so many brackets are open. -/
  closesAtEnd (depth : Nat) : List Char → Bool
    | [] => false
    | '(' :: rest => closesAtEnd (depth + 1) rest
    | ')' :: rest => if depth ≤ 1 then rest.isEmpty else closesAtEnd (depth - 1) rest
    | _ :: rest => depth != 0 && closesAtEnd depth rest

/-! ### Words -/

/-- Puts a part before others; texts that belong together are joined. -/
def joinPart : Part → List Part → List Part
  | .bare a, .bare b :: rest => .bare (a ++ b) :: rest
  | .quoted a, .quoted b :: rest => .quoted (a ++ b) :: rest
  | p, rest => p :: rest

/-- The expansion behind a dollar sign that has been consumed. -/
def dollar (quoted : Bool) : Reader Part := do
  let s ← get
  let fuel := s.length + 1
  match s with
  | '(' :: rest =>
    goOn rest
    let isSum := rest.head? == some '('
    let inner ← rawUntil fuel ')' false (if isSum then rest.length else 0)
    if isWrapped inner then
      return .arithmetic (String.ofList (inner.drop 1).dropLast) quoted
    else return .substitution (String.ofList inner) quoted
  | '[' :: rest =>
    goOn rest
    return .arithmetic (String.ofList (← rawUntil fuel ']' false rest.length)) quoted
  | c :: rest =>
    if c == openBrace then
      goOn rest
      return .parameter (String.ofList (← rawUntil fuel closeBrace quoted rest.length)) quoted
    else if isNameStart c then
      let name := s.takeWhile isNameRest
      skip name.length
      return .parameter (String.ofList name) quoted
    else if "?$!#@*-0123456789".toList.contains c then
      goOn rest
      return .parameter (String.singleton c) quoted
    else return if quoted then .quoted "$" else .bare "$"
  | [] => return if quoted then .quoted "$" else .bare "$"

/-- The parts of a text inside double quotes, up to the closing one or to the end of the text. -/
def doubleParts (closed : Bool) (place : Nat) : Nat → Reader (List Part)
  | 0 => throw (.unclosed '"' place)
  | fuel + 1 => do
    match ← get with
    | [] => if closed then throw (.unclosed '"' place) else return []
    | '\\' :: '\n' :: rest =>
      goOn rest
      doubleParts closed place fuel
    | '\\' :: c :: rest =>
      goOn rest
      let text := if c == '$' || c == '"' || c == '\\' || c == backquote then [c] else ['\\', c]
      return joinPart (.quoted (String.ofList text)) (← doubleParts closed place fuel)
    | '$' :: rest =>
      goOn rest
      let p ← dollar true
      return joinPart p (← doubleParts closed place fuel)
    | c :: rest =>
      goOn rest
      if c == '"' && closed then return []
      else if c == backquote then
        let inner ← rawBackquoted true rest.length (rest.length + 1)
        return .substitution (String.ofList inner) true :: (← doubleParts closed place fuel)
      else return joinPart (.quoted (String.singleton c)) (← doubleParts closed place fuel)

/-- Whether a sign and a bracket behind it open a group of alternatives in a pattern. -/
def opensGroup (c : Char) : Bool := ['?', '*', '+', '@', '!'].contains c

/-- The parts of a word up to a character that ends it. -/
def parts (ends : Char → Bool) : Nat → Reader (List Part)
  | 0 => refuse
  | fuel + 1 => do
    match ← get with
    | [] => return []
    | '\\' :: '\n' :: rest =>
      goOn rest
      parts ends fuel
    | '\\' :: c :: rest =>
      goOn rest
      return joinPart (.quoted (String.singleton c)) (← parts ends fuel)
    | '\'' :: rest =>
      let inner := rest.takeWhile (· != '\'')
      match rest.drop inner.length with
      | [] => throw (.unclosed '\'' rest.length)
      | _ :: after =>
        goOn after
        return joinPart (.quoted (String.ofList inner)) (← parts ends fuel)
    | '"' :: rest =>
      goOn rest
      let inner ← doubleParts true rest.length (rest.length + 1)
      let inner := if inner.isEmpty then [.quoted ""] else inner
      return inner.foldr joinPart (← parts ends fuel)
    | '$' :: '\'' :: rest =>
      let inner ← (do goOn rest; ansiRaw rest.length (rest.length + 1))
      let text := ansiText inner.length inner
      return joinPart (.quoted (String.ofList text)) (← parts ends fuel)
    | '$' :: '"' :: rest =>
      goOn ('"' :: rest)
      parts ends fuel
    | '$' :: rest =>
      goOn rest
      let p ← dollar false
      return joinPart p (← parts ends fuel)
    | '<' :: '(' :: rest =>
      if ends ' ' then
        goOn rest
        let inner ← rawUntil (rest.length + 1) ')' false 0
        return .process (String.ofList inner) :: (← parts ends fuel)
      else
        goOn ('(' :: rest)
        return joinPart (.bare "<") (← parts ends fuel)
    | c :: rest =>
      if ends c then return []
      goOn rest
      if c == backquote then
        let inner ← rawBackquoted false rest.length (rest.length + 1)
        return .substitution (String.ofList inner) false :: (← parts ends fuel)
      else if ends '(' && rest.head? == some '(' && opensGroup c then
        skip 1
        let raw ← rawUntil (rest.length + 1) ')' false 0
        let inner ← match onText (parts (fun _ => false) fuel) raw with
          | .ok (inner, _) => pure inner
          | .error fault => throw fault
        let group := joinPart (.bare (String.ofList [c, '('])) inner
        return group.foldr joinPart (joinPart (.bare ")") (← parts ends fuel))
      else return joinPart (.bare (String.singleton c)) (← parts ends fuel)
where
  /-- The text up to the quote that closes a dollar-quoted string. -/
  ansiRaw (place : Nat) : Nat → Reader (List Char)
    | 0 => throw (.unclosed '\'' place)
    | fuel + 1 => do
      match ← get with
      | [] => throw (.unclosed '\'' place)
      | '\\' :: c :: rest =>
        goOn rest
        return '\\' :: c :: (← ansiRaw place fuel)
      | '\'' :: rest =>
        goOn rest
        return []
      | c :: rest =>
        goOn rest
        return c :: (← ansiRaw place fuel)

/-- A word of a command, which may be missing. -/
def word : Reader Word := do
  parts isMeta ((← get).length + 1)

/-- A word of a command. -/
def someWord : Reader Word := do
  skipBlanks
  let w ← word
  if w.isEmpty then refuse else return w

/-- The operand of a comparison with a regular expression, in which brackets are no marks. -/
def regexWord : Reader Word := do
  skipBlanks
  let w ← parts (fun c => c == ' ' || c == '\t' || c == '\n') ((← get).length + 1)
  if w.isEmpty then refuse else return w

/-- The characters of a word without its quotes. -/
def literalText (w : Word) : String :=
  String.join (w.map fun
    | .bare s | .quoted s => s
    | .parameter s _ => "$" ++ s
    | _ => "")

/-- Whether a part of a word is quoted. -/
def hasQuotes (w : Word) : Bool :=
  w.any fun
    | .quoted _ => true
    | _ => false

end SmokeTest.Shell.Reader
