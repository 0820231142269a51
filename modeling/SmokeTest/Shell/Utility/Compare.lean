/-
Commands that compare texts.
-/
import SmokeTest.Shell.Utility.Basic

namespace SmokeTest.Shell.Utility

open Text

/-- What becomes of a line on the way from one text to the other. -/
inductive LineChange
  | keep
  | delete (line : List Char)
  | add (line : List Char)
  deriving DecidableEq, Repr, Inhabited

/-- The lengths of the longest common sublists of the first list and the ends of the second, where
those for the end of the first list are given. -/
def commonRow (x : List Char) : List (List Char) → List Nat → List Nat
  | y :: ys, below :: rest =>
    let row := commonRow x ys rest
    let beside := row.head?.getD 0
    (if x == y then (rest.head?.getD 0) + 1 else max below beside) :: row
  | _, _ => [0]

/-- The rows of such lengths for all ends of the first list. -/
def commonRows (ys : List (List Char)) : List (List Char) → List (List Nat)
  | [] => [List.replicate (ys.length + 1) 0]
  | x :: xs =>
    let rows := commonRows ys xs
    commonRow x ys (rows.head?.getD []) :: rows

/-- The changes that make the second list of the first, along the rows of lengths. -/
def changes : Nat → List (List Nat) → List (List Char) → List (List Char) → List LineChange
  | 0, _, _, _ => []
  | _, _, [], ys => ys.map .add
  | _, _, xs, [] => xs.map .delete
  | fuel + 1, rows, x :: xs, y :: ys =>
    if x == y then .keep :: changes fuel ((rows.drop 1).map (·.drop 1)) xs ys
    else
      let below := ((rows[1]?).bind (·[0]?)).getD 0
      let beside := ((rows[0]?).bind (·[1]?)).getD 0
      if beside ≤ below then .delete x :: changes fuel (rows.drop 1) xs (y :: ys)
      else .add y :: changes fuel (rows.map (·.drop 1)) (x :: xs) ys

/-- The numbers of lines from one to another, as the heading of a change shows them. -/
def lineRange (first count : Nat) : List Char :=
  let start := Nat.toDigits 10 first
  if count ≤ 1 then start else start ++ ',' :: Nat.toDigits 10 (first + count - 1)

/-- The lines that show changes, behind so many lines of both texts. -/
def shownChanges : Nat → Nat → Nat → List LineChange → List (List Char)
  | 0, _, _, _ => []
  | _, _, _, [] => []
  | fuel + 1, a, b, .keep :: rest => shownChanges fuel (a + 1) (b + 1) rest
  | fuel + 1, a, b, cs =>
    let run := cs.takeWhile (· != .keep)
    let gone := run.filterMap fun
      | .delete l => some l
      | _ => none
    let come := run.filterMap fun
      | .add l => some l
      | _ => none
    let heading :=
      if gone.isEmpty then Nat.toDigits 10 a ++ 'a' :: lineRange (b + 1) come.length
      else if come.isEmpty then lineRange (a + 1) gone.length ++ 'd' :: Nat.toDigits 10 b
      else lineRange (a + 1) gone.length ++ 'c' :: lineRange (b + 1) come.length
    let middle := if gone.isEmpty || come.isEmpty then [] else ["---".toList]
    heading :: gone.map (['<', ' '] ++ ·) ++ middle ++ come.map (['>', ' '] ++ ·) ++
      shownChanges fuel (a + gone.length) (b + come.length) (cs.drop run.length)

/-- Shows how the lines of two files differ. -/
def diff (c : Call) : Effect :=
  let (os, paths) := options [] c.arguments
  match paths with
  | [p, q] =>
    match readPath c p, readPath c q with
    | .ok a, .ok b =>
      if a == b then {}
      else if has os 'q' then { say s!"Files {p} and {q} differ\n" with status := 1 }
      else
        let xs := linesOf a
        let ys := linesOf b
        let cs := changes (xs.length + ys.length + 1) (commonRows ys xs) xs ys
        { output := unlines (shownChanges (cs.length + 1) 0 0 cs), status := 1 }
    | a, b =>
      let error : Except String (List UInt8) → String
        | .error e => e
        | .ok _ => ""
      { errors := error a ++ error b, status := 2 }
  | _ => { misuse c "missing operand" with status := 2 }

/-- Says where two files begin to differ. -/
def cmp (c : Call) : Effect :=
  let (os, paths) := options [] c.arguments
  match paths with
  | [p, q] =>
    match readPath c p, readPath c q with
    | .ok a, .ok b =>
      let same := ((a.zip b).takeWhile fun (x, y) => x == y).length
      if a == b then {}
      else if has os 's' then { status := 1 }
      else if same == a.length || same == b.length then
        let shorter := if same == a.length then p else q
        let lines := (a.take same).count 10
        let inLine := (a.take same).getLast? != some 10
        let line := if same == 0 then "which is empty"
          else if inLine then s!"after byte {decimal same}, in line {decimal (lines + 1)}"
          else s!"after byte {decimal same}, line {decimal lines}"
        { status := 1, errors := s!"cmp: EOF on {shorter} {line}\n" }
      else
        let line := (a.take same).count 10 + 1
        let place := s!"char {decimal (same + 1)}, line {decimal line}"
        { say s!"{p} {q} differ: {place}\n" with status := 1 }
    | .error e, _ | _, .error e => { errors := e, status := 2 }
  | _ => { misuse c "missing operand" with status := 2 }

end SmokeTest.Shell.Utility
