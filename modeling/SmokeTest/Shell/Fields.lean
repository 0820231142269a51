/-
Fields: what a word becomes.

Main definitions:

* `Fields` — the fields that have been built so far, and how the next text goes on with them;
* `braceWords` — the words that a word with braces stands for.

Design notes: text that is split ends fields at separators. Blanks between fields count as one
separator, together with one other separator among them.
-/
import SmokeTest.Shell.Glob
import SmokeTest.Shell.Reader

namespace SmokeTest.Shell

/-- Fields under construction. -/
structure Fields where
  /-- The fields that are finished, the latest first. -/
  finished : List (List Letter) := []
  /-- The field that is being built, its latest letter first. -/
  current : Option (List Letter) := none
  /-- The last field was ended by a blank. -/
  blankEnded : Bool := false
  deriving Inhabited

namespace Fields

/-- Goes on with the field that is being built, which exists from now on. -/
def begun (f : Fields) : Fields :=
  { f with current := some (f.current.getD []), blankEnded := false }

/-- Adds letters to the field. -/
def add (f : Fields) (letters : List Letter) : Fields :=
  if letters.isEmpty then f
  else { f with current := some (letters.reverse ++ f.current.getD []), blankEnded := false }

/-- Ends the field, if there is one. -/
def finish (f : Fields) : Fields :=
  match f.current with
  | some letters => { f with finished := letters :: f.finished, current := none }
  | none => f

/-- Adds a letter, or ends a field if the letter separates fields. -/
def step (separators : List Char) (f : Fields) (l : Letter) : Fields :=
  if !l.active || !separators.contains l.char then f.add [l]
  else if l.char == ' ' || l.char == '\t' || l.char == '\n' then
    if f.current.isSome then { f.finish with blankEnded := true } else f
  else if f.current.isSome then f.finish
  else if f.blankEnded then { f with blankEnded := false }
  else { f with finished := [] :: f.finished }

/-- Adds letters, those outside of quotes cut at separators. -/
def split (separators : List Char) (f : Fields) (letters : List Letter) : Fields :=
  letters.foldl (step separators) f

/-- All fields, in their order. -/
def toList (f : Fields) : List (List Letter) :=
  (f.finish.finished.map List.reverse).reverse

end Fields

/-! ### Braces -/

/-- A letter outside of quotes, or another part of a word. -/
inductive Atom
  | mark (c : Char)
  | part (p : Part)
  deriving DecidableEq, Repr, Inhabited

/-- The atoms of a word. -/
def atomsOf (w : Word) : List Atom :=
  w.flatMap fun
    | .bare s => s.toList.map .mark
    | p => [.part p]

/-- The word of atoms. -/
def wordOf (atoms : List Atom) : Word :=
  atoms.foldr (fun a w =>
    match a with
    | .mark c => Reader.joinPart (.bare (String.singleton c)) w
    | .part p => Reader.joinPart p w) []

/-- What stands between an opening brace and its closing one, cut at commas, and what follows. -/
def braceParts? : Nat → Nat → List Atom → Option (List (List Atom) × List Atom)
  | 0, _, _ => none
  | _, _, [] => none
  | fuel + 1, depth, a :: rest =>
    let keep (depth : Nat) : Option (List (List Atom) × List Atom) :=
      match braceParts? fuel depth rest with
      | some (p :: ps, after) => some ((a :: p) :: ps, after)
      | _ => none
    match a with
    | .mark '\x7b' => keep (depth + 1)
    | .mark '\x7d' => if depth == 0 then some ([[]], rest) else keep (depth - 1)
    | .mark ',' =>
      if depth == 0 then
        (braceParts? fuel 0 rest).map fun (ps, after) => ([] :: ps, after)
      else keep depth
    | _ => keep depth

/-- The whole number that characters write, with a sign. -/
def signedNumber? (s : List Char) : Option Int :=
  match s with
  | '-' :: d => (Text.readDigits? 10 d).map fun n => -(n : Int)
  | '+' :: d | d => (Text.readDigits? 10 d).map fun (n : Nat) => (n : Int)

/-- The text of a whole number, with zeros up to a width. -/
def paddedNumber (width : Nat) (n : Int) : List Char :=
  let digits := Nat.toDigits 10 n.natAbs
  let sign := if n < 0 then ['-'] else []
  sign ++ List.replicate (width - sign.length - digits.length) '0' ++ digits

/-- The members of a sequence such as `1..5` or `a..e`. -/
def sequence? (inside : List Atom) : Option (List (List Char)) := do
  let text ← inside.mapM fun
    | .mark c => some c
    | .part _ => none
  let (a, b, step) ← match (Text.pieces '.' text) with
    | [a, [], b] => some (a, b, 1)
    | [a, [], b, [], s] => (signedNumber? s).map fun n => (a, b, max 1 n.natAbs)
    | _ => none
  let count (low high : Int) : List Int :=
    let up := low ≤ high
    let n := (high - low).natAbs / step
    (List.range (n + 1)).map fun (i : Nat) =>
      if up then low + (i * step : Nat) else low - (i * step : Nat)
  match signedNumber? a, signedNumber? b with
  | some x, some y =>
    let padded (s : List Char) : Bool := (s.dropWhile (· == '-')).head? == some '0' && 1 < s.length
    let width := if padded a || padded b then max a.length b.length else 0
    some ((count x y).map (paddedNumber width))
  | _, _ =>
    match a, b with
    | [x], [y] =>
      if x.isAlpha && y.isAlpha then
        some ((count x.toNat y.toNat).map fun n => [Char.ofNat n.toNat])
      else none
    | _, _ => none

/-- The lists of atoms that one list with braces stands for. -/
def braceAtoms : Nat → List Atom → List (List Atom)
  | 0, atoms => [atoms]
  | _, [] => [[]]
  | fuel + 1, a :: rest =>
    let plain (_ : Unit) := (braceAtoms fuel rest).map (a :: ·)
    match a with
    | .mark '\x7b' =>
      match braceParts? (rest.length + 1) 0 rest with
      | some ([inside], after) =>
        match sequence? inside with
        | some members =>
          let tails := braceAtoms fuel after
          members.flatMap fun m => tails.map fun t => m.map Atom.mark ++ t
        | none => plain ()
      | some (alternatives, after) =>
        let tails := braceAtoms fuel after
        (alternatives.flatMap (braceAtoms fuel)).flatMap fun h => tails.map (h ++ ·)
      | none => plain ()
    | _ => plain ()

/-- The words that a word with braces stands for. -/
def braceWords (w : Word) : List Word :=
  let marked := w.any fun
    | .bare s => s.toList.contains '\x7b'
    | _ => false
  if !marked then [w]
  else
    let atoms := atomsOf w
    (braceAtoms (2 * atoms.length + 8) atoms).map wordOf

end SmokeTest.Shell
