/-
Commands that look for patterns in the lines of texts, and replace what they find.
-/
import SmokeTest.Shell.Expressions
import SmokeTest.Shell.Utility.Basic

namespace SmokeTest.Shell.Utility

open Text

/-- All matches in a line that are not empty. -/
def allMatches (fold : Bool) (e : Ere) (text : Array Char) : Nat → Nat → List (List Char)
  | 0, _ => []
  | fuel + 1, i =>
    match Ere.searchFrom? fold e text (text.size + 1) i with
    | some (start, stop, _) =>
      if start == stop then
        if stop < text.size then allMatches fold e text fuel (stop + 1) else []
      else (text.extract start stop).toList :: allMatches fold e text fuel stop
    | none => []

/-- Writes the lines in which a pattern is found. -/
def grep (extended fixed : Bool) (c : Call) : Effect :=
  let (os, operands) := options ['e', 'm'] c.arguments
  let given := (os.filter (·.1 == 'e')).map Prod.snd
  let (patterns, paths) := match given, operands with
    | [], p :: rest => ([p], rest)
    | given, operands => (given, operands)
  let fixed := fixed || has os 'F'
  let fold := has os 'i'
  let patterns := patterns.flatMap fun p => (pieces '\n' p.toList)
  let read := patterns.mapM fun p =>
    if fixed then some (p.foldr (fun c e => Ere.both (.char c) e) .empty)
    else Ere.read? (!(extended || has os 'E' || has os 'P')) p
  match read with
  | none => refuse c 2 "Invalid regular expression"
  | some es =>
    let found (l : List Char) : Bool := es.any fun e =>
      let text := l.toArray
      let e := if has os 'w' then Ere.both .wordEdge (.both e .wordEdge) else e
      let e := if has os 'x' then Ere.both .lineStart (.both e .lineEnd) else e
      (Ere.search? fold e text).isSome
    let (texts, errors) := readAll c paths
    let hits := texts.map fun (name, b) =>
      (name, (linesOf b).zipIdx.filter fun (l, _) => found l != has os 'v')
    let any := hits.any fun (_, ls) => !ls.isEmpty
    let named := (1 < paths.length || has os 'H') && !has os 'h'
    let mark (name : String) : List Char := if named then name.toList ++ [':'] else []
    let rows (name : String) (ls : List (List Char × Nat)) : List (List Char) :=
      let ls := match (value? os 'm').bind natural? with
        | some n => ls.take n
        | none => ls
      if has os 'c' then [mark name ++ Nat.toDigits 10 ls.length]
      else if has os 'l' then if ls.isEmpty then [] else [name.toList]
      else ls.flatMap fun (l, i) =>
        let number := if has os 'n' then Nat.toDigits 10 (i + 1) ++ [':'] else []
        if has os 'o' then es.flatMap fun e =>
          (allMatches fold e l.toArray (l.length + 1) 0).map fun m => mark name ++ number ++ m
        else [mark name ++ number ++ l]
    { output := if has os 'q' then [] else unlines (hits.flatMap fun (name, ls) => rows name ls)
      errors := if has os 's' then "" else errors
      status := if any then 0 else if errors.isEmpty then 1 else 2
      reads := paths.isEmpty || paths.contains "-" }

/-- The text that replaces a match. -/
def replacement (text : Array Char) (start stop : Nat) (groups : Ere.Groups) : List Char → List Char
  | '\\' :: c :: rest =>
    let s := if c.isDigit then
        if c == '0' then (text.extract start stop).toList
        else Ere.groupText text groups (c.toNat - '0'.toNat)
      else if c == 'n' then ['\n']
      else [c]
    s ++ replacement text start stop groups rest
  | '&' :: rest =>
    (text.extract start stop).toList ++ replacement text start stop groups rest
  | c :: rest => c :: replacement text start stop groups rest
  | [] => []

/-- A line with the first match, or all of them, replaced; says whether there was one. -/
def substitute (fold all : Bool) (e : Ere) (template : List Char) (text : Array Char) :
    Nat → Nat → List Char × Bool
  | 0, i => ((text.extract i text.size).toList, false)
  | fuel + 1, i =>
    match Ere.searchFrom? fold e text (text.size + 1) i with
    | none => ((text.extract i text.size).toList, false)
    | some (start, stop, groups) =>
      let front := (text.extract i start).toList ++ replacement text start stop groups template
      if !all then (front ++ (text.extract stop text.size).toList, true)
      else if stop < text.size || start < stop then
        if start == stop then
          let (rest, _) := substitute fold all e template text fuel (stop + 1)
          (front ++ (text.extract stop (stop + 1)).toList ++ rest, true)
        else if stop == text.size then (front, true)
        else
          let (rest, _) := substitute fold all e template text fuel stop
          (front ++ rest, true)
      else (front, true)

/-- The parts of a text between a mark that no backslash protects. -/
def unprotected (mark : Char) : List Char → List (List Char)
  | [] => [[]]
  | '\\' :: c :: rest =>
    match unprotected mark rest with
    | p :: ps => (if c == mark then c :: p else '\\' :: c :: p) :: ps
    | [] => [['\\', c]]
  | c :: rest =>
    if c == mark then [] :: unprotected mark rest
    else
      match unprotected mark rest with
      | p :: ps => (c :: p) :: ps
      | [] => [[c]]

/-- What a script of `sed` does with a line: the lines to write and whether the line itself is kept.
-/
def sedLine (extended : Bool) (number last : Nat) (script : List Char) (l : List Char) :
    Option (List (List Char) × Option (List Char)) := do
  let address := script.takeWhile fun c => c.isDigit || c == '$' || c == ','
  let (applies, rest) ← match script with
    | '/' :: inner =>
      let pattern := inner.takeWhile (· != '/')
      let e ← Ere.read? (!extended) pattern
      some ((Ere.search? false e l.toArray).isSome, inner.drop (pattern.length + 1))
    | script =>
      let lineOf (s : List Char) : Nat := if s == ['$'] then last else (readDigits? 10 s).getD 0
      match pieces ',' address with
      | [[]] => some (true, script)
      | [a] => some (number == lineOf a, script.drop address.length)
      | [a, b] => some (lineOf a ≤ number && number ≤ lineOf b, script.drop address.length)
      | _ => none
  let rest := rest.dropWhile (· == ' ')
  if !applies then some ([], some l)
  else
    match rest with
    | 'd' :: _ => some ([], none)
    | 'p' :: _ => some ([l], some l)
    | 's' :: mark :: inner =>
      match unprotected mark inner with
      | [pattern, template, flags] =>
        let e ← Ere.read? (!extended) pattern
        let fold := flags.contains 'i' || flags.contains 'I'
        let (l', done) :=
          substitute fold (flags.contains 'g') e template l.toArray (l.length + 2) 0
        some (if done && flags.contains 'p' then [l'] else [], some l')
      | _ => none
    | 'y' :: mark :: inner =>
      match unprotected mark inner with
      | [old, new, _] =>
        some ([], some (l.map fun c => ((old.findIdx? (· == c)).bind (new[·]?)).getD c))
      | _ => none
    | _ => none

/-- Edits lines. -/
def sed (c : Call) : Effect :=
  let (os, operands) := options ['e'] c.arguments
  let extended := has os 'E' || has os 'r'
  let given := (os.filter (·.1 == 'e')).map Prod.snd
  let (scripts, paths) := match given, operands with
    | [], s :: rest => ([s], rest)
    | given, operands => (given, operands)
  let scripts := scripts.flatMap fun s => (pieces ';' s.toList).map fun p => p.dropWhile (· == ' ')
  let (scripts, quits) := scripts.partition fun s => s.getLast? != some 'q'
  let quit? := (quits.filterMap fun s => readDigits? 10 s.dropLast).head?
  let edit (last : Nat) (l : List Char) (number : Nat) : Option (List (List Char)) := do
    let step (state : List (List Char) × Option (List Char)) (script : List Char) :
        Option (List (List Char) × Option (List Char)) :=
      match state with
      | (out, none) => some (out, none)
      | (out, some l) => do
        let (more, l) ← sedLine extended number last script l
        some (out ++ more, l)
    let (out, kept) ← scripts.foldlM step ([], some l)
    some (out ++ if has os 'n' then [] else kept.toList)
  let (texts, errors) := readAll c paths
  let ls := texts.flatMap fun (_, b) => linesOf b
  let kept := match quit? with
    | some n => ls.take n
    | none => ls
  match kept.zipIdx.mapM fun (l, i) => edit ls.length l (i + 1) with
  | none => refuse c 1 "-e expression #1, char 1: unknown command"
  | some out =>
    { output := unlines out.flatten, errors, status := if errors.isEmpty then 0 else 2
      reads := paths.isEmpty }

end SmokeTest.Shell.Utility
