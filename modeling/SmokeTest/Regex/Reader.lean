/-
Reading patterns.

Main statement: `Pattern.read? text` is the pattern that the text writes, if it writes one.

Design notes: the readers work on a cursor and fail without a reason, because nobody is told why a
pattern is refused. Each call of a recursive reader either consumes a character or returns, so the
length of the text bounds the number of calls; the bound is computed in `Pattern.read?` alone.
-/
import SmokeTest.Regex.Binary
import SmokeTest.Regex.Category
import SmokeTest.Regex.Pattern
import SmokeTest.Text.Blank
import SmokeTest.Text.CaseTable

namespace SmokeTest.Regex

open Text

/-- Where a reader stands. -/
structure Cursor where
  rest : List Char
  /-- Blanks and comments between the parts of the pattern are skipped. -/
  spaced : Bool := false
  /-- The names that groups have been given so far. -/
  names : List (List Char) := []

/-- A reader of a part of a pattern. -/
abbrev Reader := StateT Cursor Option

namespace Reader

/-- The next character. -/
def peek? : Reader (Option Char) := do
  return (← get).rest.head?

/-- The next character, which has to exist; it is not consumed. -/
def peek : Reader Char := do
  match ← peek? with
  | some c => return c
  | none => failure

/-- Consumes a character. -/
def skip : Reader Unit :=
  modify fun s => { s with rest := s.rest.tail }

/-- The text without the blanks and comments it begins with. -/
def dropSpace : (inComment : Bool) → List Char → List Char
  | _, [] => []
  | true, c :: rest => dropSpace (c != '\n') rest
  | false, c :: rest =>
    if isBlank c then dropSpace false rest
    else if c == '#' then dropSpace true rest
    else c :: rest

/-- Skips blanks and comments where they mean nothing. -/
def skipSpace : Reader Unit :=
  modify fun s => if s.spaced then { s with rest := dropSpace false s.rest } else s

/-- Consumes a character and the blanks after it. -/
def skipSpaced : Reader Unit := do
  skip
  skipSpace

/-- Consumes the text if it comes next. -/
def accept (text : String) : Reader Bool := do
  match dropPrefix? text.toList (← get).rest with
  | some rest =>
    modify fun s => { s with rest }
    return true
  | none => return false

/-- Goes on only if the condition holds. -/
def require (b : Bool) : Reader Unit :=
  if b then pure () else failure

/-! ### Escapes -/

/-- The characters that stand for themselves only after a backslash. -/
def isMeta (c : Char) : Bool :=
  "\\.+*?()|[]\x7b\x7d^$#&-~".toList.contains c

/-- The characters that a backslash before them does not change. -/
def isEscapable (c : Char) : Bool :=
  isMeta c || (c.toNat < 0x80 && !c.isAlphanum && c != '<' && c != '>')

/-- The hexadecimal digits up to a closing brace. -/
def braceDigits : Nat → List Char → Reader (List Char)
  | 0, _ => failure
  | fuel + 1, digits => do
    skipSpaced
    let c ← peek
    if c == '\x7d' then return digits.reverse
    require (hexDigit? c).isSome
    braceDigits fuel (c :: digits)

/-- So many hexadecimal digits. -/
def fixedDigits : Nat → List Char → Reader (List Char)
  | 0, digits => return digits.reverse
  | n + 1, digits => do
    let c ← peek
    require (hexDigit? c).isSome
    skipSpaced
    fixedDigits n (c :: digits)

/-- The character with the number that the digits write. -/
def charOfDigits (digits : List Char) : Reader Char := do
  match (readDigits? 16 digits).bind charOf? with
  | some c => return c
  | none => failure

/-- A character given by its number; the letter after the backslash comes next. -/
def hexLiteral (fuel : Nat) : Reader Literal := do
  let kind ← peek
  skipSpaced
  let c ← peek
  if c == '\x7b' then
    let digits ← braceDigits fuel []
    skipSpaced
    return ⟨← charOfDigits digits, false⟩
  else
    let digits ← fixedDigits (if kind == 'x' then 2 else if kind == 'u' then 4 else 8) []
    return ⟨← charOfDigits digits, kind == 'x'⟩

/-- The text up to a closing brace. -/
def braceText : Nat → List Char → Reader (List Char)
  | 0, _ => failure
  | fuel + 1, text => do
    skipSpaced
    let c ← peek
    if c == '\x7d' then
      skip
      return text.reverse
    braceText fuel (c :: text)

/-- The first place where `t` stands in `s`: what precedes it and what follows it. -/
def cutAt (t : List Char) : List Char → Option (List Char × List Char)
  | [] => none
  | c :: s =>
    match dropPrefix? t (c :: s) with
    | some rest => some ([], rest)
    | none => (cutAt t s).map fun (front, back) => (c :: front, back)

/-- A property; the letter `p` or `P` comes next. -/
def propertyQuery (fuel : Nat) : Reader (Bool × PropertyQuery) := do
  let negated := (← peek) == 'P'
  skipSpaced
  let c ← peek
  if c == '\x7b' then
    let text ← braceText fuel []
    match cutAt ['!', '='] text with
    | some (name, value) => return (!negated, .valued name value)
    | none =>
      match cut ':' text with
      | some (name, value) => return (negated, .valued name value)
      | none =>
        match cut '=' text with
        | some (name, value) => return (negated, .valued name value)
        | none => return (negated, .named text)
  else
    require (c != '\\')
    skipSpaced
    return (negated, .named [c])

/-- The letters and hyphens of a named word boundary. -/
def boundaryName : Nat → List Char → Reader (List Char)
  | 0, _ => failure
  | fuel + 1, name => do
    match ← peek? with
    | some c =>
      if c.isAlpha || c == '-' then
        skipSpaced
        boundaryName fuel (c :: name)
      else return name.reverse
    | none => return name.reverse

/-- A word boundary, after its `b`: plain, or with a name in braces. A brace that begins a count is
left alone. -/
def wordBoundary (fuel : Nat) : Reader Assertion := do
  if (← peek?) == some '\x7b' then
    let before ← get
    skipSpaced
    let c ← peek
    if !(c.isAlpha || c == '-') then
      set before
      return .wordBoundary
    let name ← boundaryName fuel []
    require ((← peek?) == some '\x7d')
    skip
    match String.ofList name with
    | "start" => return .wordStart
    | "end" => return .wordEnd
    | "start-half" => return .wordStartHalf
    | "end-half" => return .wordEndHalf
    | _ => failure
  else return .wordBoundary

/-- What an escape writes, a backslash being next. -/
def escape (fuel : Nat) : Reader Pattern := do
  skip
  let c ← peek
  match c with
  | 'x' | 'u' | 'U' => return .literal (← hexLiteral fuel)
  | 'p' | 'P' =>
    let (negated, query) ← propertyQuery fuel
    return .property negated query
  | 'd' => skip; return .short false .digit
  | 'D' => skip; return .short true .digit
  | 's' => skip; return .short false .space
  | 'S' => skip; return .short true .space
  | 'w' => skip; return .short false .word
  | 'W' => skip; return .short true .word
  | _ =>
    skip
    if isEscapable c then return .literal ⟨c, false⟩
    match c with
    | 'a' => return .literal ⟨'\x07', false⟩
    | 'f' => return .literal ⟨'\x0c', false⟩
    | 't' => return .literal ⟨'\t', false⟩
    | 'n' => return .literal ⟨'\n', false⟩
    | 'r' => return .literal ⟨'\r', false⟩
    | 'v' => return .literal ⟨'\x0b', false⟩
    | 'A' => return .assertion .textStart
    | 'z' => return .assertion .textEnd
    | 'b' => return .assertion (← wordBoundary fuel)
    | 'B' => return .assertion .notWordBoundary
    | '<' => return .assertion .wordStart
    | '>' => return .assertion .wordEnd
    | _ => failure

/-! ### Bracketed classes -/

/-- The class with the given name. -/
def namedClassOf? : String → Option NamedClass
  | "alnum" => some .alnum
  | "alpha" => some .alpha
  | "ascii" => some .ascii
  | "blank" => some .blank
  | "cntrl" => some .cntrl
  | "digit" => some .digit
  | "graph" => some .graph
  | "lower" => some .lower
  | "print" => some .print
  | "punct" => some .punct
  | "space" => some .space
  | "upper" => some .upper
  | "word" => some .word
  | "xdigit" => some .xdigit
  | _ => none

/-- The class `[:name:]` or `[:^name:]` and what follows it. -/
def namedClass? (text : List Char) : Option (Bool × NamedClass × List Char) :=
  match dropPrefix? ['[', ':'] text with
  | none => none
  | some rest =>
    let (negated, rest) := match rest with
      | '^' :: rest => (true, rest)
      | _ => (false, rest)
    match cut ':' rest with
    | some (name, ']' :: rest) =>
      (namedClassOf? (String.ofList name)).map fun c => (negated, c, rest)
    | _ => none

/-- A single item of a bracketed class. -/
def classItem (fuel : Nat) : Reader ClassSet := do
  let c ← peek
  if c == '\\' then
    match ← escape fuel with
    | .literal l => return .literal l
    | .short negated s => return .short negated s
    | .property negated q => return .property negated q
    | _ => failure
  else
    skip
    return .literal ⟨c, false⟩

/-- The character after the next one, blanks not counted where they mean nothing. -/
def peekSecond : Reader (Option Char) := do
  let s ← get
  let rest := s.rest.tail
  return (if s.spaced then dropSpace false rest else rest).head?

/-- An item of a bracketed class, or a range. -/
def classRange (fuel : Nat) : Reader ClassSet := do
  let first ← classItem fuel
  skipSpace
  let c ← peek
  let second ← peekSecond
  if c != '-' || second == some ']' || second == some '-' then return first
  skipSpaced
  let _ ← peek
  let last ← classItem fuel
  match first, last with
  | .literal a, .literal b =>
    require (a.char.toNat ≤ b.char.toNat)
    return .range a b
  | _, _ => failure

/-- The hyphens that a class begins with. -/
def leadingHyphens : Nat → List ClassSet → Reader (List ClassSet)
  | 0, _ => failure
  | fuel + 1, items => do
    if (← peek) == '-' then
      skipSpaced
      leadingHyphens fuel (.literal ⟨'-', false⟩ :: items)
    else return items

/-- What stands to the left of the last operator, joined with what has been read since. -/
def joinLeft (left : Option (SetOp × ClassSet)) (items : List ClassSet) : ClassSet :=
  match left with
  | none => .ofList items.reverse
  | some (o, l) => .op o l (.ofList items.reverse)

mutual

/-- A bracketed class, its opening bracket being next. -/
def bracket : Nat → Reader (Bool × ClassSet)
  | 0 => failure
  | fuel + 1 => do
    skipSpaced
    let negated := (← peek) == '^'
    if negated then skipSpaced
    let hyphens ← leadingHyphens fuel []
    if hyphens.isEmpty && (← peek) == ']' then
      skipSpaced
      return (negated, ← classBody fuel none [.literal ⟨']', false⟩])
    return (negated, ← classBody fuel none hyphens)

/-- The inside of a bracketed class and its closing bracket. -/
def classBody : Nat → Option (SetOp × ClassSet) → List ClassSet → Reader ClassSet
  | 0, _, _ => failure
  | fuel + 1, left, items => do
    skipSpace
    let c ← peek
    if c == '[' then
      match namedClass? (← get).rest with
      | some (negated, name, rest) =>
        modify fun s => { s with rest }
        classBody fuel left (.named negated name :: items)
      | none =>
        let (negated, inside) ← bracket fuel
        classBody fuel left (.bracket negated inside :: items)
    else if c == ']' then
      skip
      return joinLeft left items
    else if ← accept "&&" then classBody fuel (some (.inter, joinLeft left items)) []
    else if ← accept "--" then classBody fuel (some (.diff, joinLeft left items)) []
    else if ← accept "~~" then classBody fuel (some (.symmDiff, joinLeft left items)) []
    else
      let item ← classRange fuel
      classBody fuel left (item :: items)

end

/-! ### Groups, flags and repetition -/

/-- The flag with the given letter. -/
def flagOf? : Char → Option Flag
  | 'i' => some .ignoreCase
  | 'm' => some .multiLine
  | 's' => some .dotMatchesNewline
  | 'U' => some .swapGreed
  | 'u' => some .unicode
  | 'R' => some .carriageReturns
  | 'x' => some .spaced
  | _ => none

/-- The flags up to a colon or a closing parenthesis. No flag is named twice, and a hyphen stands at
most once and not last. -/
def flagChange : Nat → (on off : List Flag) → (negated : Bool) → (dangling : Bool) →
    Reader FlagChange
  | 0, _, _, _, _ => failure
  | fuel + 1, on, off, negated, dangling => do
    let c ← peek
    if c == ':' || c == ')' then
      require !dangling
      return ⟨on.reverse, off.reverse⟩
    else if c == '-' then
      require !negated
      skip
      flagChange fuel on off true true
    else
      match flagOf? c with
      | none => failure
      | some flag =>
        require !(on.contains flag || off.contains flag)
        skip
        if negated then flagChange fuel on (flag :: off) negated false
        else flagChange fuel (flag :: on) off negated false

/-- Whether a character can stand in the name of a group, first or later. -/
def isNameChar (first : Bool) (c : Char) : Bool :=
  let hasAny (ps : List Property) (names : List String) : Bool :=
    ps.any fun p => names.any p.names.contains && inRanges p.ranges c.toNat
  if c == '_' || hasAny binaryProperties ["alphabetic"] then true
  else if first then false
  else c == '.' || c == '[' || c == ']' || hasAny categories ["nd", "nl", "no"]

/-- The name of a group and its closing angle bracket. -/
def groupName : Nat → List Char → Reader (List Char)
  | 0, _ => failure
  | fuel + 1, name => do
    let c ← peek
    if c == '>' then
      skip
      return name.reverse
    require (isNameChar name.isEmpty c)
    skip
    groupName fuel (c :: name)

/-- A number between blanks. -/
def count : Reader Nat := do
  let s ← get
  let start := s.rest.dropWhile isBlank
  let digits := start.takeWhile Char.isDigit
  set { s with rest := (start.dropWhile Char.isDigit).dropWhile isBlank }
  skipSpace
  match readDigits? 10 digits with
  | some n => if n < 4294967296 then return n else failure
  | none => failure

/-- The least and the greatest number of repetitions, an opening brace being next. -/
def bounds : Reader (Nat × Option Nat) := do
  skipSpaced
  let least ← count
  let most ←
    if (← peek) == ',' then
      skipSpaced
      if (← peek) == '\x7d' then pure none else some <$> count
    else pure (some least)
  require ((← peek) == '\x7d')
  skipSpaced
  let _ ← accept "?"
  require (most.all (least ≤ ·))
  return (least, most)

/-- The patterns read so far, latest first, with the latest one repeated. -/
def repeatLast (read : List Pattern) (min : Nat) (max : Option Nat) : Reader (List Pattern) :=
  match read with
  | [] | .empty :: _ | .flags _ :: _ => failure
  | p :: before => return .repeated p min max :: before

mutual

/-- The branches of an alternation, up to a closing parenthesis or the end. -/
def branches : Nat → List Pattern → Reader Pattern
  | 0, _ => failure
  | fuel + 1, read => do
    let branch ← items fuel []
    if (← peek?) == some '|' then
      skip
      branches fuel (branch :: read)
    else return .choiceOf (branch :: read).reverse

/-- The items of a branch. -/
def items : Nat → List Pattern → Reader Pattern
  | 0, _ => failure
  | fuel + 1, read => do
    skipSpace
    match ← peek? with
    | none | some ')' | some '|' => return .sequenceOf read.reverse
    | some '(' =>
      let p ← group fuel
      items fuel (p :: read)
    | some '[' =>
      let (negated, inside) ← bracket fuel
      items fuel (.bracket negated inside :: read)
    | some '?' =>
      skip
      let _ ← accept "?"
      items fuel (← repeatLast read 0 (some 1))
    | some '*' =>
      skip
      let _ ← accept "?"
      items fuel (← repeatLast read 0 none)
    | some '+' =>
      skip
      let _ ← accept "?"
      items fuel (← repeatLast read 1 none)
    | some '\x7b' =>
      let (min, max) ← bounds
      items fuel (← repeatLast read min max)
    | some '\\' => items fuel ((← escape fuel) :: read)
    | some '.' => skip; items fuel (.dot :: read)
    | some '^' => skip; items fuel (.assertion .lineStart :: read)
    | some '$' => skip; items fuel (.assertion .lineEnd :: read)
    | some c => skip; items fuel (.literal ⟨c, false⟩ :: read)

/-- A group or a change of flags, an opening parenthesis being next. -/
def group : Nat → Reader Pattern
  | 0 => failure
  | fuel + 1 => do
    let spaced := (← get).spaced
    skipSpaced
    let rest := (← get).rest
    require !(["?=", "?!", "?<=", "?<!"].any fun look => startsWith look.toList rest)
    let change ←
      if (← accept "?P<") || (← accept "?<") then
        let name ← groupName fuel []
        require (!name.isEmpty && !(← get).names.contains name)
        modify fun s => { s with names := name :: s.names }
        pure none
      else if ← accept "?" then
        let change ← flagChange fuel [] [] false false
        modify fun s => { s with spaced := change.apply .spaced s.spaced }
        if ← accept ")" then
          require !(change.on.isEmpty && change.off.isEmpty)
          return .flags change
        skip
        pure (some change)
      else pure none
    let inside ← branches fuel []
    require (← accept ")")
    modify fun s => { s with spaced }
    return .group change inside

end

end Reader

namespace Pattern

/-- The pattern that a text writes. -/
def read? (text : List Char) : Option Pattern :=
  match Reader.branches (4 * text.length + 8) [] { rest := text } with
  | some (p, ⟨[], _, _⟩) => if p.depth ≤ depthLimit then some p else none
  | _ => none

end Pattern

end SmokeTest.Regex
