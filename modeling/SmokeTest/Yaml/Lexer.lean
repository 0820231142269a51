/-
From the characters of a YAML text to its tokens.

Main statement: `Token.ofText? text` are the tokens of the text, the end of the stream being the
last one; none if the text holds characters or marks that it may not hold where they stand.

Design notes: a key needs no mark in front of it. Where a token may turn out to be a key, its place
in the list of tokens is remembered for each level of flow collections, and the marks are put there
once the `:` is found. Indentation is kept as a stack of columns; a column deeper than the top opens
a block collection, and every column that is left closes one. Each token is fetched by one call of
`fetch?`, which consumes a character or ends the stream.
-/
import SmokeTest.Text.Utf8
import SmokeTest.Yaml.Scalar
import SmokeTest.Yaml.Token

namespace SmokeTest.Yaml

/-- A token that may be a key: where it stands in the text and in the list of tokens. -/
structure KeyPlace where
  /-- At this indentation nothing but a key may stand. -/
  required : Bool
  token : Nat
  index : Nat
  line : Nat
  column : Nat
  deriving Repr, Inhabited

/-- The state between two tokens. -/
structure Lexer where
  place : Cursor
  tokens : Array Token := #[]
  /-- The column of the innermost block collection, and those around it. -/
  indent : Int := -1
  indents : List Int := []
  /-- A key may begin here. -/
  keyAllowed : Bool := true
  /-- The possible keys, for the innermost flow collection first and for the block context last. -/
  keys : List (Option KeyPlace) := [none]
  deriving Inhabited

namespace Lexer

/-- Whether the place is inside a flow collection. -/
def inFlow (l : Lexer) : Bool :=
  1 < l.keys.length

/-- Adds a token at the end. -/
def push (l : Lexer) (t : Token) : Lexer :=
  { l with tokens := l.tokens.push t }

/-- Adds a token in front of the one with the given number. -/
def insert (l : Lexer) (n : Nat) (t : Token) : Lexer :=
  { l with tokens := l.tokens.insertIdxIfInBounds n t }

/-- Goes on at another place. -/
def moveTo (l : Lexer) (c : Cursor) : Lexer :=
  { l with place := c }

/-- Says whether a key may begin at the next place. -/
def allowKey (l : Lexer) (allowed : Bool) : Lexer :=
  { l with keyAllowed := allowed }

/-- Closes the block collections that are indented more than the column. -/
def unroll (l : Lexer) (column : Int) : List Int → Lexer
  | [] => l
  | outer :: rest =>
    if column < l.indent then
      ({ l with indent := outer, indents := rest }.push .blockEnd).unroll column rest
    else l

/-- Closes the block collections that are indented more than the column; inside flow collections
indentation does not count. -/
def unrollTo (l : Lexer) (column : Int) : Lexer :=
  if l.inFlow then l else l.unroll column l.indents

/-- Opens a block collection at the column, unless there is one; its mark is put in front of the
token with the given number, if there is one. -/
def roll (l : Lexer) (column : Nat) (number : Option Nat) (mark : Token) : Lexer :=
  if l.inFlow || (column : Int) ≤ l.indent then l
  else
    let l := { l with indent := column, indents := l.indent :: l.indents }
    match number with
    | some n => if n < l.tokens.size then l.insert n mark else l.push mark
    | none => l.push mark

/-- Gives up the possible key of the innermost level; a required one may not be given up. -/
def dropKey? (l : Lexer) : Option Lexer :=
  match l.keys with
  | some k :: rest => if k.required then none else some { l with keys := none :: rest }
  | _ => some l

/-- Remembers that the next token may be a key. -/
def saveKey? (l : Lexer) : Option Lexer :=
  if !l.keyAllowed then some l
  else
    match l.dropKey? with
    | none => none
    | some l =>
      let key : KeyPlace :=
        { required := !l.inFlow && l.indent == l.place.column, token := l.tokens.size
          index := l.place.index, line := l.place.line, column := l.place.column }
      some { l with keys := some key :: l.keys.tail }

/-- Gives up the possible keys that are more than a line or 1024 characters away. -/
def dropStale? (l : Lexer) : Option Lexer := do
  let keys ← l.keys.mapM fun k =>
    match k with
    | some k =>
      if k.line < l.place.line || k.index + 1024 < l.place.index then
        if k.required then none else some none
      else some (some k)
    | none => some none
  return { l with keys }

/-- Skips blanks, comments and line ends before the next token. Tabs are no indentation, and outside
flow collections a key may begin in a new line. -/
def skipToToken : Nat → Lexer → Lexer
  | 0, l => l
  | fuel + 1, l =>
    let tabs := l.inFlow || !l.keyAllowed
    let c := if l.place.index == 0 && l.place.isAt '\ufeff' then l.place.skip else l.place
    let c := (c.span fun x => x == ' ' || (tabs && x == '\t')).2
    let c := if c.isAt '#' then c.skipLine else c
    if c.next.any isBreak then
      skipToToken fuel { l with place := c.readBreak.2, keyAllowed := l.keyAllowed || !l.inFlow }
    else l.moveTo c

/-! ### Names, tags and directives -/

/-- The characters of a tag. -/
def isTagChar (verbatim : Bool) (c : Char) : Bool :=
  isNameChar c || ";/?:@&=+$.%!~*'()".toList.contains c ||
    (verbatim && (c == ',' || c == '[' || c == ']'))

/-- The text in which `%` and two digits stand for a byte; none if the bytes are no text. -/
def decodeTag? : Nat → List UInt8 → List Char → Option (List UInt8)
  | _, read, [] => some read.reverse
  | 0, _, _ => none
  | fuel + 1, read, '%' :: rest =>
    match rest with
    | a :: b :: rest =>
      match Text.digitsValue? 16 0 [a, b] with
      | some n => decodeTag? fuel (n.toUInt8 :: read) rest
      | none => none
    | _ => none
  | fuel + 1, read, c :: rest => decodeTag? fuel ((Text.encodeChar c).reverse ++ read) rest

/-- Reads the characters of a tag behind those already read. -/
def readTagText? (verbatim : Bool) (before : List Char) (c : Cursor) :
    Option (String × Cursor) := do
  let (text, c) := c.span (isTagChar verbatim)
  if before.isEmpty && text.isEmpty then none
  let all := before.drop 1 ++ text
  let bytes ← decodeTag? (all.length + 1) [] all
  return (← Text.decodeUtf8? bytes, c)

/-- Reads the handle of a tag: `!`, a name and perhaps another `!`. -/
def readHandle? (c : Cursor) : Option (List Char × Cursor) :=
  if !c.isAt '!' then none
  else
    let (name, c) := c.skip.span isNameChar
    if c.isAt '!' then some ('!' :: name ++ ['!'], c.skip) else some ('!' :: name, c)

/-- Reads a tag. -/
def readTag? (flow : Bool) (c : Cursor) : Option (Token × Cursor) := do
  let (token, c) ←
    if c.ahead 1 == some '<' then do
      let (uri, c) ← readTagText? true [] (c.skipMany 2)
      if c.isAt '>' then some (Token.tag "" uri, c.skip) else none
    else do
      let (handle, after) ← readHandle? c
      if 1 < handle.length && handle.getLast? == some '!' then
        let (suffix, c) ← readTagText? false [] after
        some (Token.tag (String.ofList handle) suffix, c)
      else
        let (suffix, c) ← readTagText? false handle after
        some (if suffix.isEmpty then Token.tag "" "!" else Token.tag "!" suffix, c)
  if c.stopsAt 0 || (flow && c.isAt ',') then some (token, c) else none

/-- Reads a number of a directive. -/
def readVersionPart? (c : Cursor) : Option (Nat × Cursor) :=
  let (digits, c) := c.span Char.isDigit
  if digits.length ≤ 9 then (Text.readDigits? 10 digits).map fun n => (n, c) else none

/-- Reads a directive up to the end of its line. -/
def readDirective? (c : Cursor) : Option (Token × Cursor) := do
  let (name, c) := c.skip.span isNameChar
  if name.isEmpty || !c.stopsAt 0 then none
  let (token, c) ←
    match String.ofList name with
    | "YAML" => do
      let (major, c) ← readVersionPart? c.skipBlanks
      if !c.isAt '.' then none
      let (minor, c) ← readVersionPart? c.skip
      some (Token.versionDirective major minor, c)
    | "TAG" => do
      let (handle, c) ← readHandle? c.skipBlanks
      if handle.length ≠ 1 && handle.getLast? ≠ some '!' then none
      if !(c.next.any isBlank) then none
      let (uri, c) ← readTagText? true [] c.skipBlanks
      if !c.stopsAt 0 then none
      some (Token.tagDirective (String.ofList handle) uri, c)
    | _ => none
  let c := c.skipBlanks
  let c := if c.isAt '#' then c.skipLine else c
  if c.breaksAt 0 then some (token, c.readBreak.2) else none

/-- Reads the name of an anchor or of an alias. -/
def readAnchor? (c : Cursor) : Option (String × Cursor) :=
  let (name, c) := c.skip.span isNameChar
  if name.isEmpty || !(c.stopsAt 0 || c.next.any "?:,]\x7d%@\x60".toList.contains) then none
  else some (String.ofList name, c)

/-! ### Fetching a token -/

/-- Ends all block collections before a mark of the document. -/
def beforeMark? (l : Lexer) : Option Lexer := do
  let l ← (l.unrollTo (-1)).dropKey?
  return l.allowKey false

/-- Begins a flow collection, which may itself be a key. -/
def openFlow? (l : Lexer) (mark : Token) : Option Lexer := do
  let l ← l.saveKey?
  return ({ l with keys := none :: l.keys, keyAllowed := true }.moveTo l.place.skip).push mark

/-- Ends a flow collection. -/
def closeFlow? (l : Lexer) (mark : Token) : Option Lexer := do
  let l ← l.dropKey?
  let keys := if l.inFlow then l.keys.tail else l.keys
  return ({ l with keys, keyAllowed := false }.moveTo l.place.skip).push mark

/-- An entry of a block sequence. -/
def fetchEntry? (l : Lexer) : Option Lexer := do
  if !l.inFlow && !l.keyAllowed then none
  let l ← (l.roll l.place.column none .blockSequenceStart).dropKey?
  return ((l.allowKey true).moveTo l.place.skip).push .blockEntry

/-- A key with its mark. -/
def fetchKey? (l : Lexer) : Option Lexer := do
  if !l.inFlow && !l.keyAllowed then none
  let l ← (l.roll l.place.column none .blockMappingStart).dropKey?
  return ((l.allowKey !l.inFlow).moveTo l.place.skip).push .key

/-- The `:` behind a key. -/
def fetchValue? (l : Lexer) : Option Lexer :=
  match l.keys with
  | some k :: rest =>
    let l := (l.insert k.token .key).roll k.column (some k.token) .blockMappingStart
    some ((({ l with keys := none :: rest }.allowKey false).moveTo l.place.skip).push .value)
  | _ =>
    if !l.inFlow && !l.keyAllowed then none
    else
      let l := l.roll l.place.column none .blockMappingStart
      some (((l.allowKey !l.inFlow).moveTo l.place.skip).push .value)

/-- A token that may be a key and behind which no key may begin. -/
def fetchLeaf? (l : Lexer) (read : Cursor → Option (Token × Cursor)) : Option Lexer := do
  let l ← l.saveKey?
  let (token, c) ← read l.place
  return ((l.allowKey false).moveTo c).push token

/-- A block scalar, the sign being next. -/
def fetchBlock? (l : Lexer) (folded : Bool) : Option Lexer := do
  let l ← l.dropKey?
  let (text, c) ← readBlock? folded l.indent l.place.skip
  return ((l.allowKey true).moveTo c).push
    (.scalar (String.ofList text) (if folded then .folded else .literal))

/-- A quoted scalar. -/
def fetchQuoted? (l : Lexer) (single : Bool) : Option Lexer :=
  l.fetchLeaf? fun c =>
    (readQuoted? single c.skip).map fun (text, c) => (.scalar (String.ofList text) .quoted, c)

/-- A plain scalar; behind a line end a key may begin. -/
def fetchPlain? (l : Lexer) : Option Lexer := do
  let l ← l.saveKey?
  let (text, broken, c) ← readPlain? l.inFlow (l.indent + 1).toNat l.place
  return ((l.allowKey broken).moveTo c).push (.scalar (String.ofList text) .plain)

/-- Whether a plain scalar can begin with the next character. -/
def beginsPlain (l : Lexer) : Bool :=
  match l.place.next with
  | none => false
  | some x =>
    if isBlank x || isBreak x then false
    else if x == '-' then !((l.place.ahead 1).any isBlank)
    else if x == '?' || x == ':' then !l.inFlow && !l.place.stopsAt 1
    else !("-?:,[]\x7b\x7d#&*!|>'\"%@\x60".toList.contains x)

/-- Fetches the next token; gives back whether it is the last one. -/
def fetch? (l : Lexer) : Option (Lexer × Bool) := do
  let l ← (skipToToken (l.place.rest.length + 1) l).dropStale?
  let l := l.unrollTo l.place.column
  let c := l.place
  let more (l? : Option Lexer) : Option (Lexer × Bool) := l?.map fun l => (l, false)
  match c.next with
  | none =>
    let l ← (l.unrollTo (-1)).dropKey?
    return (l.push .streamEnd, true)
  | some x =>
    if c.column == 0 && x == '%' then
      more do
        let l ← l.beforeMark?
        let (token, c) ← readDirective? l.place
        return (l.moveTo c).push token
    else if c.atMarker '-' then
      more do
        let l ← l.beforeMark?
        return (l.moveTo (c.skipMany 3)).push .documentStart
    else if c.atMarker '.' then
      more do
        let l ← l.beforeMark?
        return (l.moveTo (c.skipMany 3)).push .documentEnd
    else if x == '[' then more (l.openFlow? .flowSequenceStart)
    else if x == '\x7b' then more (l.openFlow? .flowMappingStart)
    else if x == ']' then more (l.closeFlow? .flowSequenceEnd)
    else if x == '\x7d' then more (l.closeFlow? .flowMappingEnd)
    else if x == ',' then
      more do
        let l ← l.dropKey?
        return ((l.allowKey true).moveTo c.skip).push .flowEntry
    else if x == '-' && c.stopsAt 1 then more l.fetchEntry?
    else if x == '?' && (l.inFlow || c.stopsAt 1) then more l.fetchKey?
    else if x == ':' && (l.inFlow || c.stopsAt 1) then more l.fetchValue?
    else if x == '*' then
      more (l.fetchLeaf? fun c => (readAnchor? c).map fun (n, c) => (.aliasTo n, c))
    else if x == '&' then
      more (l.fetchLeaf? fun c => (readAnchor? c).map fun (n, c) => (.anchor n, c))
    else if x == '!' then more (l.fetchLeaf? (readTag? l.inFlow))
    else if x == '|' && !l.inFlow then more (l.fetchBlock? false)
    else if x == '>' && !l.inFlow then more (l.fetchBlock? true)
    else if x == '\'' then more (l.fetchQuoted? true)
    else if x == '"' then more (l.fetchQuoted? false)
    else if l.beginsPlain then more l.fetchPlain?
    else none

/-- Fetches tokens up to the end of the stream. -/
def fetchAll? : Nat → Lexer → Option (Array Token)
  | 0, _ => none
  | fuel + 1, l =>
    match l.fetch? with
    | none => none
    | some (l, true) => some l.tokens
    | some (l, false) => fetchAll? fuel l

end Lexer

/-- The tokens of a text. A byte order mark at its beginning is skipped. -/
def Token.ofText? (text : String) : Option (List Token) :=
  let chars := match text.toList with
    | '\ufeff' :: rest => rest
    | chars => chars
  if chars.all isPrintable then
    (Lexer.fetchAll? (chars.length + 2) { place := { rest := chars } }).map Array.toList
  else none

end SmokeTest.Yaml
