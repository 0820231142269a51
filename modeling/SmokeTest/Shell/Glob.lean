/-
Patterns of the shell: `*`, `?`, sets of characters and groups such as `@(a|b)`.

Main definitions:

* `Letter` — a character of a word, with whether it may act as a mark of a pattern;
* `Glob.ofLetters` — the pattern that a word is;
* `Glob.accepts` — whether a pattern fits the whole of a text;
* `expandPaths` — the paths that a word with patterns stands for.

Design notes: a pattern is followed by the list of all places in the text that it can reach, which
is never longer than the text, so no pattern takes long.
-/
import SmokeTest.FileTree

namespace SmokeTest.Shell

/-- A character of a word. -/
structure Letter where
  char : Char
  /-- Stands outside of quotes, so that it may be a mark. -/
  active : Bool := true
  deriving DecidableEq, Repr, Inhabited

/-- The letters of a text. -/
def lettersOf (active : Bool) (s : String) : List Letter :=
  s.toList.map fun c => ⟨c, active⟩

/-- The text of letters. -/
def textOf (w : List Letter) : String :=
  String.ofList (w.map Letter.char)

/-- A piece of a set of characters. -/
inductive SetItem
  | range (low high : Char)
  | named (name : String)
  deriving DecidableEq, Repr, Inhabited

/-- A piece of a pattern. -/
inductive GlobItem
  | char (c : Char)
  | one
  | many
  | set (negated : Bool) (items : List SetItem)
  /-- Alternatives, and the sign that says how often they may follow each other. -/
  | group (sign : Char) (alternatives : List (List GlobItem))
  deriving Repr, Inhabited

/-- Whether a character belongs to a named class. -/
def inClass (name : String) (c : Char) : Bool :=
  match name with
  | "alpha" => c.isAlpha
  | "digit" => c.isDigit
  | "alnum" => c.isAlphanum
  | "upper" => c.isUpper
  | "lower" => c.isLower
  | "space" => [' ', '\t', '\n', '\x0b', '\x0c', '\r'].contains c
  | "blank" => c == ' ' || c == '\t'
  | "punct" => 0x20 < c.toNat && c.toNat < 0x7f && !c.isAlphanum
  | "xdigit" => c.isDigit || ('a' ≤ c && c ≤ 'f') || ('A' ≤ c && c ≤ 'F')
  | "cntrl" => c.toNat < 0x20 || c.toNat == 0x7f
  | "print" => 0x20 ≤ c.toNat && c.toNat < 0x7f
  | "graph" => 0x20 < c.toNat && c.toNat < 0x7f
  | _ => false

/-- Whether a character belongs to a piece of a set. -/
def SetItem.contains (c : Char) : SetItem → Bool
  | range low high => low ≤ c && c ≤ high
  | named name => inClass name c

/-- The name of a class that a text begins with, behind its opening mark. -/
def className? (s : List Char) : Option (String × List Char) :=
  let name := s.takeWhile Char.isAlpha
  match s.drop name.length with
  | ':' :: ']' :: rest => some (String.ofList name, rest)
  | _ => none

/-- The pieces of a set up to its closing bracket, and what follows it. -/
def setItems? : Nat → (first : Bool) → List Char → Option (List SetItem × List Char)
  | 0, _, _ => none
  | _, _, [] => none
  | fuel + 1, first, c :: rest =>
    if c == ']' && !first then some ([], rest)
    else
      let (item, after) :=
        match c, rest with
        | '[', ':' :: inner =>
          match className? inner with
          | some (name, after) => (SetItem.named name, after)
          | none => (.range c c, rest)
        | _, '-' :: d :: after => if d == ']' then (.range c c, rest) else (.range c d, after)
        | _, _ => (.range c c, rest)
      (setItems? fuel false after).map fun (items, after) => (item :: items, after)

/-- A set behind its opening bracket. -/
def set? (s : List Char) : Option (GlobItem × List Char) :=
  let (negated, inner) := match s with
    | '!' :: rest | '^' :: rest => (true, rest)
    | s => (false, s)
  (setItems? (inner.length + 1) true inner).map fun (items, after) => (.set negated items, after)

namespace Glob

/-- The signs that make a group of alternatives in brackets. -/
def groupSigns : List Char := ['?', '*', '+', '@', '!']

/-- The alternatives up to the bracket that closes a group, and the letters behind it. -/
def groupParts? : (depth : Nat) → List Letter → Option (List (List Letter) × List Letter)
  | _, [] => none
  | depth, l :: rest =>
    let keep (depth : Nat) : Option (List (List Letter) × List Letter) :=
      match groupParts? depth rest with
      | some (p :: ps, after) => some ((l :: p) :: ps, after)
      | _ => none
    if !l.active then keep depth
    else
      match l.char with
      | '(' => keep (depth + 1)
      | ')' => if depth = 0 then some ([[]], rest) else keep (depth - 1)
      | '|' =>
        if depth = 0 then (groupParts? 0 rest).map fun (ps, after) => ([] :: ps, after)
        else keep depth
      | _ => keep depth

/-- The alternatives behind a sign, if the letters after it are a group. -/
def group? (sign : Char) (rest : List Letter) : Option (List (List Letter) × List Letter) :=
  match rest with
  | ⟨'(', true⟩ :: inner => if groupSigns.contains sign then groupParts? 0 inner else none
  | _ => none

/-- The pattern that letters are; marks in quotes are characters. -/
def ofLetters : Nat → List Letter → List GlobItem
  | fuel + 1, l :: rest =>
    if !l.active then .char l.char :: ofLetters fuel rest
    else
      match group? l.char rest with
      | some (alternatives, after) =>
        .group l.char (alternatives.map (ofLetters fuel)) :: ofLetters fuel after
      | none =>
        match l.char with
        | '*' => .many :: ofLetters fuel rest
        | '?' => .one :: ofLetters fuel rest
        | '[' =>
          match set? (rest.map Letter.char) with
          | some (item, after) => item :: ofLetters fuel (rest.drop (rest.length - after.length))
          | none => .char '[' :: ofLetters fuel rest
        | c => .char c :: ofLetters fuel rest
  | _, _ => []

/-- The pattern that a word is. -/
def ofWord (w : List Letter) : List GlobItem :=
  ofLetters (w.length + 1) w

/-- The pattern and the text in small letters, so that capital letters make no difference. -/
def lowered : Nat → List GlobItem → List GlobItem
  | 0, p => p
  | fuel + 1, p => p.map fun
    | .char c => .char c.toLower
    | .set negated items => .set negated (items.map fun
      | .range low high => .range low.toLower high.toLower
      | .named name => .named (if name == "upper" then "lower" else name))
    | .group sign alternatives => .group sign (alternatives.map (lowered fuel))
    | item => item

/-- All ends of a text. -/
def tails : List Char → List (List Char)
  | [] => [[]]
  | c :: s => (c :: s) :: tails s

/-- The texts without those that are as long as an earlier one. -/
def distinct (texts : List (List Char)) : List (List Char) :=
  let lengths := texts.map List.length
  (texts.zipIdx.filter fun (t, i) => !(lengths.take i).contains t.length).map Prod.fst

mutual

/-- What can be left of a text behind a piece of a pattern. -/
def behindItem : Nat → GlobItem → List Char → List (List Char)
  | 0, _, _ => []
  | fuel + 1, item, s =>
    match item with
    | .many => tails s
    | .one => match s with
      | [] => []
      | _ :: s => [s]
    | .char d => match s with
      | [] => []
      | c :: s => if c == d then [s] else []
    | .set negated items => match s with
      | [] => []
      | c :: s => if items.any (SetItem.contains c) != negated then [s] else []
    | .group sign alternatives =>
      let once (s : List Char) : List (List Char) := alternatives.flatMap fun p => behind fuel p s
      let more (s : List Char) : List (List Char) :=
        behindItem fuel (.group '*' alternatives) s
      match sign with
      | '@' => once s
      | '?' => s :: once s
      | '+' => (once s).flatMap fun rest => if rest.length < s.length then more rest else [rest]
      | '*' =>
        s :: (once s).flatMap fun rest => if rest.length < s.length then more rest else []
      | _ =>
        let taken := once s
        (tails s).filter fun rest => taken.all fun t => t.length != rest.length

/-- What can be left of a text behind a pattern. -/
def behind : Nat → List GlobItem → List Char → List (List Char)
  | 0, _, _ => []
  | _, [], s => [s]
  | fuel + 1, item :: p, s =>
    distinct ((distinct (behindItem fuel item s)).flatMap (behind fuel p))

end

/-- Whether a pattern without groups fits the whole of a text. -/
def acceptsPlain : List GlobItem → List Char → Bool
  | [], s => s.isEmpty
  | .many :: p, [] => acceptsPlain p []
  | .many :: p, c :: s => acceptsPlain p (c :: s) || acceptsPlain (.many :: p) s
  | _, [] => false
  | .char d :: p, c :: s => c == d && acceptsPlain p s
  | .one :: p, _ :: s => acceptsPlain p s
  | .set negated items :: p, c :: s =>
    (items.any (SetItem.contains c) != negated) && acceptsPlain p s
  | .group .. :: _, _ => false
termination_by p s => p.length + s.length

/-- Whether a pattern fits the whole of a text. -/
def accepts (p : List GlobItem) (s : List Char) : Bool :=
  let hasGroup := p.any fun
    | .group .. => true
    | _ => false
  if hasGroup then (behind (4 * s.length + 4 * p.length + 64) p s).any List.isEmpty
  else acceptsPlain p s

/-- Whether a pattern fits the whole of a text, where capital letters may make no difference. -/
def fits (anyCase : Bool) (p : List GlobItem) (s : List Char) : Bool :=
  if anyCase then accepts (lowered 64 p) (s.map Char.toLower) else accepts p s

/-- Whether the letters have a mark of a pattern. -/
def hasMark (w : List Letter) : Bool :=
  match w with
  | [] => false
  | l :: rest =>
    (l.active && (['*', '?', '['].contains l.char || (group? l.char rest).isSome)) || hasMark rest

end Glob

/-- How paths are found. -/
structure PathStyle where
  /-- A pattern that fits nothing stands for nothing. -/
  orNothing : Bool := false
  /-- Patterns also fit names that begin with a dot. -/
  hidden : Bool := false
  anyCase : Bool := false
  deriving DecidableEq, Repr, Inhabited

/-- The parts of a word between slashes. -/
def slashParts : List Letter → List (List Letter)
  | [] => [[]]
  | l :: rest =>
    if l.char == '/' then [] :: slashParts rest
    else
      match slashParts rest with
      | [] => [[l]]
      | p :: ps => (l :: p) :: ps

/-- The paths that the parts of a word stand for, behind a path already found. A name that begins
with a dot is only found by a pattern that does. -/
def expandParts (style : PathStyle) (t : FileTree) (start : Location) :
    List Char → List (List Letter) → List (List Char)
  | found, [] => [found]
  | found, part :: rest =>
    let slash := if rest.isEmpty then [] else ['/']
    if !Glob.hasMark part then
      let next := found ++ part.map Letter.char
      if (t.find? start (String.ofList (if next.isEmpty then ['/'] else next))).isSome then
        expandParts style t start (next ++ slash) rest
      else []
    else
      let pattern := Glob.ofWord part
      let directory := if found.isEmpty then "." else String.ofList found
      match t.locate? start directory with
      | none => []
      | some l =>
        let names := (t.children l).map String.toList
        let fitting := names.filter fun name =>
          Glob.fits style.anyCase pattern name &&
            (style.hidden || name.head? != some '.' || (part.head?.map Letter.char) == some '.')
        fitting.flatMap fun name => expandParts style t start (found ++ name ++ slash) rest

/-- The paths that a word with patterns stands for, in order; the word itself if there are none. -/
def expandPaths (style : PathStyle) (t : FileTree) (start : Location) (w : List Letter) :
    List String :=
  if !Glob.hasMark w then [textOf w]
  else
    match expandParts style t start [] (slashParts w) with
    | [] => if style.orNothing then [] else [textOf w]
    | found => found.map String.ofList

end SmokeTest.Shell
