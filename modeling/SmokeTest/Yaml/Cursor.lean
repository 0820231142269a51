/-
A place in a YAML text: what is left of the text, and the number of characters, lines and columns
before it.

Design notes: a line ends with `\n`, `\r\n`, `\r`, U+0085, U+2028 or U+2029. The first four are read
as `\n`, the last two as themselves.
-/

namespace SmokeTest.Yaml

/-- The characters that a YAML text may contain. -/
def isPrintable (c : Char) : Bool :=
  let n := c.toNat
  n == 0x09 || n == 0x0A || n == 0x0D || (0x20 ≤ n && n ≤ 0x7E) || n == 0x85 ||
    (0xA0 ≤ n && n ≤ 0xFFFD) || 0x10000 ≤ n

/-- The characters that end a line. -/
def isBreak (c : Char) : Bool :=
  c == '\n' || c == '\r' || c == '\u0085' || c == '\u2028' || c == '\u2029'

/-- Spaces and tabs. -/
def isBlank (c : Char) : Bool :=
  c == ' ' || c == '\t'

/-- The characters of names. -/
def isNameChar (c : Char) : Bool :=
  c.isAlphanum || c == '_' || c == '-'

/-- A place in a text. -/
structure Cursor where
  rest : List Char
  index : Nat := 0
  line : Nat := 0
  column : Nat := 0
  deriving Repr, Inhabited

namespace Cursor

/-- The character so many places ahead. -/
def ahead (c : Cursor) (n : Nat) : Option Char :=
  c.rest[n]?

/-- The next character. -/
def next (c : Cursor) : Option Char :=
  c.rest.head?

/-- Whether the text is at its end so many places ahead, or a line ends there. -/
def breaksAt (c : Cursor) (n : Nat) : Bool :=
  (c.ahead n).all isBreak

/-- Whether the text or a line ends so many places ahead, or a blank stands there. -/
def stopsAt (c : Cursor) (n : Nat) : Bool :=
  (c.ahead n).all fun x => isBlank x || isBreak x

/-- Whether a given character comes next. -/
def isAt (c : Cursor) (x : Char) : Bool :=
  c.next == some x

/-- The place behind the next character of a line. -/
def skip (c : Cursor) : Cursor :=
  { c with rest := c.rest.tail, index := c.index + 1, column := c.column + 1 }

/-- The place so many characters further in the line. -/
def skipMany (c : Cursor) (n : Nat) : Cursor :=
  { c with rest := c.rest.drop n, index := c.index + n, column := c.column + n }

/-- The characters of the line that satisfy a condition, and the place behind them. -/
def span (c : Cursor) (p : Char → Bool) : List Char × Cursor :=
  let taken := c.rest.takeWhile p
  (taken, c.skipMany taken.length)

/-- The place behind the spaces and tabs. -/
def skipBlanks (c : Cursor) : Cursor :=
  (c.span isBlank).2

/-- The end of the line. -/
def skipLine (c : Cursor) : Cursor :=
  (c.span fun x => !isBreak x).2

/-- The line end that comes next, as it is read, and the place behind it. -/
def readBreak (c : Cursor) : List Char × Cursor :=
  match c.rest with
  | '\r' :: '\n' :: rest =>
    (['\n'], { rest, index := c.index + 2, line := c.line + 1, column := 0 })
  | x :: rest =>
    if isBreak x then
      (if x == '\u2028' || x == '\u2029' then [x] else ['\n'],
        { rest, index := c.index + 1, line := c.line + 1, column := 0 })
    else ([], c)
  | [] => ([], c)

/-- Whether a marker of the document stands at the beginning of a line here: three hyphens or three
dots, and nothing but a blank behind them. -/
def atMarker (c : Cursor) (mark : Char) : Bool :=
  c.column == 0 && c.rest.take 3 == [mark, mark, mark] && c.stopsAt 3

/-- Whether one of the two markers stands here. -/
def atAnyMarker (c : Cursor) : Bool :=
  c.atMarker '-' || c.atMarker '.'

end Cursor

end SmokeTest.Yaml
