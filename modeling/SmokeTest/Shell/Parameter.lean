/-
Expansions of parameters: what is written between the braces.

Main statement: `Expansion.read? source` is the expansion that a text writes, without its braces.

Design notes: a parameter is named by a name, by a number or by one special character, and an
element of an array by a subscript behind the name. What follows the parameter says what is made of
it.
-/
import SmokeTest.Shell.Reader

namespace SmokeTest.Shell

/-- A parameter or an element of one. -/
structure Reference where
  name : String
  subscript : Option String := none
  deriving DecidableEq, Repr, Inhabited

/-- Which matches are replaced. -/
inductive Anchor
  | first
  | all
  | front
  | back
  deriving DecidableEq, Repr, Inhabited

/-- What is made of a parameter. -/
inductive Operation
  | value
  | length
  /-- The numbers or names of the elements. -/
  | keys
  /-- The names of variables with a common begin. -/
  | names
  /-- A word instead, by the sign of the operator, where nothing is set; with a colon also where
  nothing is in it. -/
  | instead (sign : Char) (colon : Bool) (word : String)
  | trim (back longest : Bool) (pattern : String)
  | replace (anchor : Anchor) (pattern replacement : String)
  | slice (offset : String) (length : Option String)
  | letters (upper all : Bool)
  /-- Quoted so that it can be read again, or another form by its letter. -/
  | form (letter : Char)
  deriving DecidableEq, Repr, Inhabited

/-- The expansion of a parameter. -/
structure Expansion where
  reference : Reference
  /-- The parameter is named by the value of this one. -/
  indirect : Bool := false
  operation : Operation := .value
  deriving DecidableEq, Repr, Inhabited

namespace Expansion

open Reader

/-- The parameter that a text begins with, and the rest. -/
def reference? (s : List Char) : Option (Reference × List Char) :=
  match s with
  | [] => none
  | c :: rest =>
    if c.isDigit then
      let digits := s.takeWhile Char.isDigit
      some (⟨String.ofList digits, none⟩, s.drop digits.length)
    else if isNameStart c then
      let name := s.takeWhile isNameRest
      match s.drop name.length with
      | '[' :: inner =>
        match onText (rawUntil (inner.length + 1) ']' false 0) inner with
        | .ok (sub, rest) => some (⟨String.ofList name, some (String.ofList sub)⟩, rest)
        | .error _ => none
      | rest => some (⟨String.ofList name, none⟩, rest)
    else if "?$!#@*-".toList.contains c then some (⟨String.singleton c, none⟩, rest)
    else none

/-- The parts of a text before and behind the first mark that is in no quotes or brackets. -/
def cutAt (mark : Char) : Nat → List Char → List Char × Option (List Char)
  | 0, s => (s, none)
  | _, [] => ([], none)
  | fuel + 1, c :: rest =>
    let keep (n : Nat) : List Char × Option (List Char) :=
      let (a, b) := cutAt mark fuel (rest.drop n)
      (c :: rest.take n ++ a, b)
    if c == mark then ([], some rest)
    else if c == '\\' then keep 1
    else if c == '\'' || c == '"' then keep ((rest.takeWhile (· != c)).length + 1)
    else if c == '$' then
      match rest with
      | opening :: inner =>
        let close := if opening == openBrace then some closeBrace
          else if opening == '(' then some ')' else none
        match close with
        | some close =>
          match onText (rawUntil (inner.length + 1) close false 0) inner with
          | .ok (raw, _) => keep (raw.length + 2)
          | .error _ => keep 0
        | none => keep 0
      | [] => keep 0
    else keep 0

/-- The operation behind a parameter. -/
def operation? (s : List Char) : Option Operation :=
  let text (s : List Char) : String := String.ofList s
  match s with
  | [] => some .value
  | ':' :: c :: rest =>
    if "-=?+".toList.contains c then some (.instead c true (text rest))
    else
      match cutAt ':' (s.length + 1) (c :: rest) with
      | (offset, length) => some (.slice (text offset) (length.map text))
  | '#' :: '#' :: p => some (.trim false true (text p))
  | '#' :: p => some (.trim false false (text p))
  | '%' :: '%' :: p => some (.trim true true (text p))
  | '%' :: p => some (.trim true false (text p))
  | '/' :: rest =>
    let (anchor, rest) := match rest with
      | '/' :: rest => (Anchor.all, rest)
      | '#' :: rest => (.front, rest)
      | '%' :: rest => (.back, rest)
      | rest => (.first, rest)
    let (pattern, replacement) := cutAt '/' (rest.length + 1) rest
    some (.replace anchor (text pattern) (text (replacement.getD [])))
  | ['^', '^'] => some (.letters true true)
  | ['^'] => some (.letters true false)
  | [',', ','] => some (.letters false true)
  | [','] => some (.letters false false)
  | ['@', c] => some (.form c)
  | c :: rest => if "-=?+".toList.contains c then some (.instead c false (text rest)) else none

/-- The expansion that a text writes. -/
def read? (source : String) : Option Expansion :=
  match source.toList with
  | ['#'] => some { reference := ⟨"#", none⟩ }
  | '#' :: rest =>
    match reference? rest with
    | some (r, []) => some { reference := r, operation := .length }
    | _ => plain ('#' :: rest)
  | '!' :: c :: rest =>
    match reference? (c :: rest) with
    | some (r, []) =>
      if r.subscript == some "@" || r.subscript == some "*" then
        some { reference := r, operation := .keys }
      else some { reference := r, indirect := true }
    | some (r, ['*']) | some (r, ['@']) => some { reference := r, operation := .names }
    | some (r, rest) =>
      (operation? rest).map fun o => { reference := r, indirect := true, operation := o }
    | none => none
  | s => plain s
where
  /-- A parameter and an operation. -/
  plain (s : List Char) : Option Expansion :=
    match reference? s with
    | some (r, rest) => (operation? rest).map fun o => { reference := r, operation := o }
    | none => none

end Expansion

end SmokeTest.Shell
