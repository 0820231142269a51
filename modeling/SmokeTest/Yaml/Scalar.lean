/-
Reading the text of scalars.

Main definitions:

* `readQuoted? single c` — a scalar in single or double quotes, the opening quote being consumed;
* `readPlain? flow indent c` — a scalar without quotes;
* `readBlock? folded indent c` — a scalar after `|` or `>`, the sign being consumed.

Design notes: line ends inside a scalar are folded. A single `\n` becomes a space, of several the
first is dropped, and a line separator of another kind is kept.
-/
import SmokeTest.Text.Numeral
import SmokeTest.Yaml.Cursor

namespace SmokeTest.Yaml

/-- What stands between two words of a scalar: blanks in a line, or line ends. -/
structure Gap where
  blanks : List Char := []
  /-- The first line end. -/
  first : List Char := []
  /-- The line ends after the first one. -/
  more : List Char := []
  /-- A line end has been met. -/
  broken : Bool := false
  deriving Repr, Inhabited

/-- What a gap contributes to the text. -/
def Gap.fold (g : Gap) : List Char :=
  if !g.broken then g.blanks
  else if g.first == ['\n'] then if g.more.isEmpty then [' '] else g.more
  else g.first ++ g.more

/-- Reads the blanks and line ends between two words. A tab that stands where the text has to be
indented is refused. -/
def readGap? (indent : Nat) : Nat → Gap → Cursor → Option (Gap × Cursor)
  | 0, _, _ => none
  | fuel + 1, g, c =>
    match c.next with
    | none => some (g, c)
    | some x =>
      if isBlank x then
        if g.broken && x == '\t' && c.column < indent then none
        else
          let g := if g.broken then g else { g with blanks := g.blanks ++ [x] }
          readGap? indent fuel g c.skip
      else if isBreak x then
        let (line, c) := c.readBreak
        let g := if g.broken then { g with more := g.more ++ line }
          else { g with blanks := [], first := line, broken := true }
        readGap? indent fuel g c
      else some (g, c)

/-! ### Quoted scalars -/

/-- The character that a backslash and a letter stand for. -/
def escaped? : Char → Option Char
  | '0' => some '\x00'
  | 'a' => some '\x07'
  | 'b' => some '\x08'
  | 't' | '\t' => some '\t'
  | 'n' => some '\n'
  | 'v' => some '\x0b'
  | 'f' => some '\x0c'
  | 'r' => some '\r'
  | 'e' => some '\x1b'
  | ' ' => some ' '
  | '"' => some '"'
  | '/' => some '/'
  | '\\' => some '\\'
  | 'N' => some '\u0085'
  | '_' => some '\u00a0'
  | 'L' => some '\u2028'
  | 'P' => some '\u2029'
  | _ => none

/-- The number of hexadecimal digits after a backslash and a letter. -/
def escapeDigits? : Char → Option Nat
  | 'x' => some 2
  | 'u' => some 4
  | 'U' => some 8
  | _ => none

/-- Reads an escape, a backslash being next. -/
def readEscape? (c : Cursor) : Option (Char × Cursor) := do
  let letter ← c.ahead 1
  match escapeDigits? letter with
  | some n =>
    let digits := (c.rest.drop 2).take n
    if digits.length = n then
      let x ← (Text.digitsValue? 16 0 digits).bind Text.charOf?
      return (x, c.skipMany (2 + n))
    else none
  | none => return (← escaped? letter, c.skipMany 2)

/-- Reads a quoted scalar up to its closing quote; the text read so far is given in reverse. -/
def readQuotedFrom? (single : Bool) : Nat → List Char → Cursor → Option (List Char × Cursor)
  | 0, _, _ => none
  | fuel + 1, read, c =>
    if c.atAnyMarker then none
    else
      match c.next with
      | none => none
      | some x =>
        if isBlank x || isBreak x then
          match readGap? 0 (fuel + 1) {} c with
          | none => none
          | some (g, c) => readQuotedFrom? single fuel (g.fold.reverse ++ read) c
        else if single && x == '\'' && c.ahead 1 == some '\'' then
          readQuotedFrom? single fuel ('\'' :: read) (c.skipMany 2)
        else if x == (if single then '\'' else '"') then some (read.reverse, c.skip)
        else if !single && x == '\\' then
          if (c.ahead 1).any isBreak then
            match readGap? 0 (fuel + 1) { broken := true } c.skip.readBreak.2 with
            | none => none
            | some (g, c) => readQuotedFrom? single fuel (g.fold.reverse ++ read) c
          else
            match readEscape? c with
            | none => none
            | some (y, c) => readQuotedFrom? single fuel (y :: read) c
        else readQuotedFrom? single fuel (x :: read) c.skip

/-- Reads a quoted scalar, the opening quote being consumed. -/
def readQuoted? (single : Bool) (c : Cursor) : Option (List Char × Cursor) :=
  readQuotedFrom? single (c.rest.length + 1) [] c

/-! ### Plain scalars -/

/-- The characters that structure flow collections. -/
def isFlowMark (c : Char) : Bool :=
  c == ',' || c == '[' || c == ']' || c == '\x7b' || c == '\x7d'

/-- Reads the characters of a plain scalar up to a blank or to a mark that ends it. -/
def readPlainWord? (flow : Bool) : Nat → List Char → Cursor → Option (List Char × Cursor)
  | 0, _, _ => none
  | fuel + 1, read, c =>
    match c.next with
    | none => some (read.reverse, c)
    | some x =>
      if isBlank x || isBreak x then some (read.reverse, c)
      else if flow && x == ':' && (c.ahead 1).any (fun y => isFlowMark y || y == '?') then none
      else if (x == ':' && c.stopsAt 1) || (flow && isFlowMark x) then some (read.reverse, c)
      else readPlainWord? flow fuel (x :: read) c.skip

/-- Reads the words of a plain scalar and the gaps between them; gives back whether a line has ended
since the last word. -/
def readPlainFrom? (flow : Bool) (indent : Nat) :
    Nat → List Char → Gap → Cursor → Option (List Char × Bool × Cursor)
  | 0, _, _, _ => none
  | fuel + 1, read, g, c =>
    if c.atAnyMarker || c.isAt '#' then some (read, g.broken, c)
    else
      match readPlainWord? flow (fuel + 1) [] c with
      | none => none
      | some (word, after) =>
        let (read, g) := if word.isEmpty then (read, g) else (read ++ g.fold ++ word, {})
        if !(after.next.any fun x => isBlank x || isBreak x) then some (read, g.broken, after)
        else
          match readGap? indent (fuel + 1) g after with
          | none => none
          | some (g, c) =>
            if !flow && c.column < indent then some (read, g.broken, c)
            else readPlainFrom? flow indent fuel read g c

/-- Reads a plain scalar. Outside flow collections its lines have at least the given indentation. -/
def readPlain? (flow : Bool) (indent : Nat) (c : Cursor) : Option (List Char × Bool × Cursor) :=
  readPlainFrom? flow indent (c.rest.length + 1) [] {} c

/-! ### Block scalars -/

/-- What becomes of the line ends behind a block scalar. -/
inductive Chomping
  | clip
  | strip
  | keep
  deriving DecidableEq, Repr

/-- The signs behind `|` or `>`: chomping and indentation, in any order. -/
def readBlockHeader? (c : Cursor) : Option (Chomping × Option Nat × Cursor) :=
  let chomping? (c : Cursor) : Option Chomping :=
    if c.isAt '+' then some .keep else if c.isAt '-' then some .strip else none
  let digit? (c : Cursor) : Option Nat := c.next.bind Text.digit?
  match chomping? c with
  | some ch =>
    match digit? c.skip with
    | some 0 => none
    | some n => some (ch, some n, c.skip.skip)
    | none => some (ch, none, c.skip)
  | none =>
    match digit? c with
    | some 0 => none
    | some n =>
      match chomping? c.skip with
      | some ch => some (ch, some n, c.skip.skip)
      | none => some (.clip, some n, c.skip)
    | none => some (.clip, none, c)

/-- Reads the indentation and the empty lines before the next line of a block scalar. Without a
known indentation the widest one is found out. -/
def readIndent? (indent : Option Nat) :
    Nat → (widest : Nat) → (breaks : List Char) → Cursor → Option (Nat × List Char × Cursor)
  | 0, _, _, _ => none
  | fuel + 1, widest, breaks, c =>
    let spaces := (c.rest.takeWhile (· == ' ')).length
    let c := c.skipMany (match indent with
      | some n => Nat.min spaces (n - c.column)
      | none => spaces)
    let widest := Nat.max widest c.column
    if c.isAt '\t' && indent.all (c.column < ·) then none
    else if c.next.any isBreak then
      let (line, c) := c.readBreak
      readIndent? indent fuel widest (breaks ++ line) c
    else some (widest, breaks, c)

/-- The state of reading the lines of a block scalar. -/
structure BlockText where
  read : List Char := []
  /-- The end of the line before. -/
  first : List Char := []
  /-- The empty lines after it. -/
  more : List Char := []
  /-- The line before begins with a blank. -/
  wasBlank : Bool := false

/-- Reads the lines of a block scalar. -/
def readBlockLines? (folded : Bool) (indent : Nat) :
    Nat → BlockText → Cursor → Option (BlockText × Cursor)
  | 0, _, _ => none
  | fuel + 1, t, c =>
    if c.column != indent || c.next.isNone then some (t, c)
    else
      let blank := c.next.any isBlank
      let gap :=
        if folded && t.first == ['\n'] && !t.wasBlank && !blank then
          if t.more.isEmpty then [' '] else t.more
        else t.first ++ t.more
      let (line, c) := c.span fun x => !isBreak x
      let (first, c) := c.readBreak
      match readIndent? (some indent) (fuel + 1) 0 [] c with
      | none => none
      | some (_, more, c) =>
        readBlockLines? folded indent fuel
          { read := t.read ++ gap ++ line, first, more, wasBlank := blank } c

/-- Reads a block scalar, `indent` being the indentation of the collection that holds it. -/
def readBlock? (folded : Bool) (indent : Int) (c : Cursor) : Option (List Char × Cursor) := do
  let fuel := c.rest.length + 1
  let (chomping, increment, c) ← readBlockHeader? c
  let c := c.skipBlanks
  let c := if c.isAt '#' then c.skipLine else c
  if !c.breaksAt 0 then none
  let c := c.readBreak.2
  let wanted := increment.map fun n => if 0 ≤ indent then indent.toNat + n else n
  let (widest, breaks, c) ← readIndent? wanted fuel 0 [] c
  let column := wanted.getD (Nat.max (Nat.max widest (indent + 1).toNat) 1)
  let (t, c) ← readBlockLines? folded column fuel { more := breaks } c
  let tail := match chomping with
    | .strip => []
    | .clip => t.first
    | .keep => t.first ++ t.more
  return (t.read ++ tail, c)

end SmokeTest.Yaml
