/-
Regular expressions as commands of a system know them, basic and extended, with groups.

Main definitions:

* `Ere.read? basic text` — the expression that a text is;
* `Ere.search? e text` — the first place where it fits, and where its groups do.

Design notes: alternatives and repetitions are tried in order, the longer repetition first. This
finds a match wherever there is one.
-/
import SmokeTest.Shell.Glob
import SmokeTest.Text.Numeral

namespace SmokeTest.Shell

/-- A regular expression. -/
inductive Ere
  | empty
  | char (c : Char)
  | one
  | set (item : GlobItem)
  | lineStart
  | lineEnd
  | wordEdge
  | group (number : Nat) (e : Ere)
  | back (number : Nat)
  | both (a b : Ere)
  | either (a b : Ere)
  | times (e : Ere) (least : Nat) (most : Option Nat)
  deriving Repr, Inhabited

namespace Ere

/-! ### Reading -/

/-- The numbers between the braces of a repetition, and what follows them. -/
def bounds? (basic : Bool) (s : List Char) : Option (Nat × Option Nat × List Char) := do
  let low := s.takeWhile Char.isDigit
  let rest := s.drop low.length
  let least := (Text.readDigits? 10 low).getD 0
  let (most, rest) ← match rest with
    | ',' :: rest =>
      let high := rest.takeWhile Char.isDigit
      some (Text.readDigits? 10 high, rest.drop high.length)
    | rest => if low.isEmpty then none else some (some least, rest)
  match basic, rest with
  | false, '\x7d' :: rest => some (least, most, rest)
  | true, '\\' :: '\x7d' :: rest => some (least, most, rest)
  | _, _ => none

/-- The repetition mark that a text begins with. -/
def repetition? (basic : Bool) (s : List Char) : Option (Nat × Option Nat × List Char) :=
  match basic, s with
  | _, '*' :: rest => some (0, none, rest)
  | false, '+' :: rest => some (1, none, rest)
  | false, '?' :: rest => some (0, some 1, rest)
  | true, '\\' :: '+' :: rest => some (1, none, rest)
  | true, '\\' :: '?' :: rest => some (0, some 1, rest)
  | false, '\x7b' :: rest => bounds? false rest
  | true, '\\' :: '\x7b' :: rest => bounds? true rest
  | _, _ => none

/-- What follows the mark that opens a group. -/
def opened? (basic : Bool) (s : List Char) : Option (List Char) :=
  match basic, s with
  | false, '(' :: rest => some rest
  | true, '\\' :: '(' :: rest => some rest
  | _, _ => none

/-- What follows the mark that closes a group. -/
def closed? (basic : Bool) (s : List Char) : Option (List Char) :=
  match basic, s with
  | false, ')' :: rest => some rest
  | true, '\\' :: ')' :: rest => some rest
  | _, _ => none

/-- What follows the mark between alternatives. -/
def barred? (basic : Bool) (s : List Char) : Option (List Char) :=
  match basic, s with
  | false, '|' :: rest => some rest
  | true, '\\' :: '|' :: rest => some rest
  | _, _ => none

/-- The characters that a backslash and a letter stand for. -/
def classEscape? : Char → Option Ere
  | 'w' => some (.set (.set false [.named "alnum", .range '_' '_']))
  | 'W' => some (.set (.set true [.named "alnum", .range '_' '_']))
  | 's' => some (.set (.set false [.named "space"]))
  | 'S' => some (.set (.set true [.named "space"]))
  | 'b' | '<' | '>' => some .wordEdge
  | _ => none

mutual

/-- Alternatives; gives back the number of groups so far and the rest. -/
def alternatives? (basic : Bool) : Nat → Nat → List Char → Option (Ere × Nat × List Char)
  | 0, _, _ => none
  | fuel + 1, groups, s => do
    let (a, groups, rest) ← row? basic fuel groups s
    match barred? basic rest with
    | some rest =>
      let (b, groups, rest) ← alternatives? basic fuel groups rest
      some (.either a b, groups, rest)
    | none => some (a, groups, rest)

/-- Pieces one after the other. -/
def row? (basic : Bool) : Nat → Nat → List Char → Option (Ere × Nat × List Char)
  | 0, _, _ => none
  | fuel + 1, groups, s =>
    if s.isEmpty || (barred? basic s).isSome || (closed? basic s).isSome then
      some (.empty, groups, s)
    else do
      let (a, groups, rest) ← piece? basic fuel groups s
      let (a, rest) := repeated basic rest.length a rest
      let (b, groups, rest) ← row? basic fuel groups rest
      some (.both a b, groups, rest)

/-- A piece without the repetitions behind it. -/
def piece? (basic : Bool) : Nat → Nat → List Char → Option (Ere × Nat × List Char)
  | 0, _, _ => none
  | fuel + 1, groups, s =>
    match opened? basic s with
    | some rest => do
      let number := groups + 1
      let (e, groups, rest) ← alternatives? basic fuel number rest
      let rest ← closed? basic rest
      some (.group number e, groups, rest)
    | none =>
      match s with
      | '.' :: rest => some (.one, groups, rest)
      | '^' :: rest => some (.lineStart, groups, rest)
      | '$' :: rest =>
        if basic && !rest.isEmpty && (closed? basic rest).isNone && (barred? basic rest).isNone then
          some (.char '$', groups, rest)
        else some (.lineEnd, groups, rest)
      | '[' :: rest =>
        match set? rest with
        | some (item, rest) => some (.set item, groups, rest)
        | none => none
      | '\\' :: c :: rest =>
        match classEscape? c with
        | some e => some (e, groups, rest)
        | none => some (if c.isDigit then .back (c.toNat - '0'.toNat) else .char c, groups, rest)
      | ['\\'] => none
      | c :: rest => some (.char c, groups, rest)
      | [] => none

/-- A piece with the repetitions behind it. -/
def repeated (basic : Bool) : Nat → Ere → List Char → Ere × List Char
  | 0, e, s => (e, s)
  | fuel + 1, e, s =>
    match repetition? basic s with
    | some (least, most, rest) => repeated basic fuel (.times e least most) rest
    | none => (e, s)

end

/-- The expression that a text is. -/
def read? (basic : Bool) (text : List Char) : Option Ere :=
  match alternatives? basic (4 * text.length + 8) 0 text with
  | some (e, _, []) => some e
  | _ => none

/-! ### Matching -/

/-- Where groups fit: their numbers with the places of their begin and end. -/
abbrev Groups := List (Nat × Nat × Nat)

/-- What is left to be matched. -/
inductive Goal
  | expression (e : Ere)
  | close (number start : Nat)
  /-- Something has been consumed since the given place. -/
  | moved (start : Nat)
  deriving Repr, Inhabited

/-- Whether two characters are the same, in any letter case if it does not count. -/
def sameChar (fold : Bool) (a b : Char) : Bool :=
  a == b || (fold && a.toLower == b.toLower)

/-- Whether a piece of a pattern fits a character. -/
def fitsItem (fold : Bool) (item : GlobItem) (c : Char) : Bool :=
  Glob.accepts [item] [c] ||
    (fold && (Glob.accepts [item] [c.toLower] || Glob.accepts [item] [c.toUpper]))

/-- Whether a character belongs to words. -/
def isWordChar (c : Option Char) : Bool :=
  c.any fun c => c.isAlphanum || c == '_'

/-- Matches what is left at a place of a text; gives back where the match ends. -/
def fit? (fold : Bool) (text : Array Char) : Nat → List Goal → Nat → Groups → Option (Nat × Groups)
  | 0, _, _, _ => none
  | _, [], i, groups => some (i, groups)
  | fuel + 1, .close number start :: goals, i, groups =>
    fit? fold text fuel goals i ((number, start, i) :: groups.filter (·.1 != number))
  | fuel + 1, .moved start :: goals, i, groups =>
    if i == start then none else fit? fold text fuel goals i groups
  | fuel + 1, .expression e :: goals, i, groups =>
    let one (p : Char → Bool) : Option (Nat × Groups) :=
      match text[i]? with
      | some c => if p c then fit? fold text fuel goals (i + 1) groups else none
      | none => none
    let here (p : Bool) : Option (Nat × Groups) :=
      if p then fit? fold text fuel goals i groups else none
    match e with
    | .empty => fit? fold text fuel goals i groups
    | .char c => one (sameChar fold c)
    | .one => one fun _ => true
    | .set item => one (fitsItem fold item)
    | .lineStart => here (i == 0)
    | .lineEnd => here (i == text.size)
    | .wordEdge =>
      here (isWordChar (if i == 0 then none else text[i - 1]?) != isWordChar text[i]?)
    | .group number e =>
      fit? fold text fuel (.expression e :: .close number i :: goals) i groups
    | .back number =>
      match groups.find? (·.1 == number) with
      | some (_, start, stop) =>
        let s := (text.extract start stop).toList
        let chars := s.map fun c => Goal.expression (.char c)
        fit? fold text fuel (chars ++ goals) i groups
      | none => none
    | .both a b => fit? fold text fuel (.expression a :: .expression b :: goals) i groups
    | .either a b =>
      match fit? fold text fuel (.expression a :: goals) i groups with
      | some r => some r
      | none => fit? fold text fuel (.expression b :: goals) i groups
    | .times e (least + 1) most =>
      let again := Goal.expression (.times e least (most.map (· - 1)))
      fit? fold text fuel (.expression e :: again :: goals) i groups
    | .times _ 0 (some 0) => fit? fold text fuel goals i groups
    | .times e 0 most =>
      let again := Goal.expression (.times e 0 (most.map (· - 1)))
      match fit? fold text fuel (.expression e :: .moved i :: again :: goals) i groups with
      | some r => some r
      | none => fit? fold text fuel goals i groups

/-- The size of an expression. -/
def size : Ere → Nat
  | group _ e => e.size + 1
  | both a b | either a b => a.size + b.size + 1
  | times e least _ => e.size * (least + 1) + 1
  | _ => 1

/-- The first match from a place on: its begin, its end and its groups. -/
def searchFrom? (fold : Bool) (e : Ere) (text : Array Char) :
    Nat → Nat → Option (Nat × Nat × Groups)
  | 0, _ => none
  | fuel + 1, i =>
    match fit? fold text (16 * (text.size + 4) * (e.size + 4)) [.expression e] i [] with
    | some (stop, groups) => some (i, stop, groups)
    | none => if i < text.size then searchFrom? fold e text fuel (i + 1) else none

/-- The first match in a text. -/
def search? (fold : Bool) (e : Ere) (text : Array Char) : Option (Nat × Nat × Groups) :=
  searchFrom? fold e text (text.size + 1) 0

/-- The text of a group, empty if it does not fit anywhere. -/
def groupText (text : Array Char) (groups : Groups) (number : Nat) : List Char :=
  match groups.find? (·.1 == number) with
  | some (_, start, stop) => (text.extract start stop).toList
  | none => []

/-- The number of groups. -/
def groupCount : Ere → Nat
  | group number e => max number e.groupCount
  | both a b | either a b => max a.groupCount b.groupCount
  | times e _ _ => e.groupCount
  | _ => 0

end Ere

end SmokeTest.Shell
