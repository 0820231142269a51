/-
Regular expressions and what they match.

Main definitions:

* `Regex` — sets of characters, conditions on a position, sequence, choice and repetition;
* `Regex.advance text r marks` — the positions of `text` where a match of `r` can end that begins at
  a marked position;
* `Regex.occursIn r text` — whether `r` matches some part of `text`.

Design notes: a set of positions is a list of marks, one for each place before, between and after
the characters. A match is found by carrying whole sets of positions through the expression, so
there is no backtracking, and the definition is structural in the expression. Which match is found
first is of no interest here, hence greedy and lazy repetition are the same.
-/
import SmokeTest.Regex.CharSet

namespace SmokeTest.Regex

/-- What is known of a position: the characters before and after it. -/
structure Spot where
  before : Option Char
  after : Option Char

/-- Conditions on a position. -/
inductive Look
  | textStart
  | textEnd
  | lineStart
  | lineEnd
  /-- A line begins after `\n`, `\r\n` or a lone `\r`. -/
  | lineStartReturn
  /-- A line ends before `\n`, `\r\n` or a lone `\r`. -/
  | lineEndReturn
  | wordBoundary (word : CharSet)
  | notWordBoundary (word : CharSet)
  | wordStart (word : CharSet)
  | wordEnd (word : CharSet)
  | wordStartHalf (word : CharSet)
  | wordEndHalf (word : CharSet)
  deriving Repr, Inhabited

/-- Whether a character exists and is in the set. -/
def CharSet.has (s : CharSet) (c : Option Char) : Bool :=
  c.any fun c => s.mem c.toNat

/-- Whether the condition holds at a position. -/
def Look.holds (l : Look) (p : Spot) : Bool :=
  match l with
  | textStart => p.before.isNone
  | textEnd => p.after.isNone
  | lineStart => p.before.isNone || p.before == some '\n'
  | lineEnd => p.after.isNone || p.after == some '\n'
  | lineStartReturn =>
    p.before.isNone || p.before == some '\n' || (p.before == some '\r' && p.after != some '\n')
  | lineEndReturn =>
    p.after.isNone || p.after == some '\r' || (p.after == some '\n' && p.before != some '\r')
  | wordBoundary w => w.has p.before != w.has p.after
  | notWordBoundary w => w.has p.before == w.has p.after
  | wordStart w => !w.has p.before && w.has p.after
  | wordEnd w => w.has p.before && !w.has p.after
  | wordStartHalf w => !w.has p.before
  | wordEndHalf w => !w.has p.after

end SmokeTest.Regex

namespace SmokeTest

open Regex

/-- A regular expression. -/
inductive Regex
  /-- Matches the empty text everywhere. -/
  | empty
  /-- Matches the empty text where the condition holds. -/
  | look (l : Look)
  /-- Matches one character of the set. -/
  | chars (s : CharSet)
  | seq (a b : Regex)
  | alt (a b : Regex)
  /-- Matches what its content matches; its ends are recorded, which takes room. -/
  | group (a : Regex)
  /-- At least `min` and at most `max` matches one after the other. -/
  | rep (a : Regex) (min : Nat) (max : Option Nat)
  deriving Repr, Inhabited

namespace Regex

/-- The positions of a text, `before` being the character before the first one. -/
def spotsFrom (before : Option Char) : List Char → List Spot
  | [] => [{ before, after := none }]
  | c :: rest => { before, after := some c } :: spotsFrom (some c) rest

/-- The positions of a text, one more than it has characters. -/
def spots (text : List Char) : List Spot :=
  spotsFrom none text

/-- The positions marked in one of the lists. -/
def join (a b : List Bool) : List Bool :=
  List.zipWith (· || ·) a b

/-- Applies a step a number of times, as long as a position is marked. -/
def iterate (step : List Bool → List Bool) : Nat → List Bool → List Bool
  | 0, marks => marks
  | n + 1, marks => if marks.contains true then iterate step n (step marks) else marks

/-- The positions that at most so many steps reach; it ends early when a step adds nothing. -/
def spread (step : List Bool → List Bool) : Nat → List Bool → List Bool
  | 0, marks => marks
  | n + 1, marks =>
    let wider := join marks (step marks)
    if wider == marks then marks else spread step n wider

/-- The positions where a match can end that begins at a marked position. No repetition needs more
rounds than there are positions to reach. -/
def advance (text : List Char) : Regex → List Bool → List Bool
  | empty, marks => marks
  | look l, marks => List.zipWith (fun p mark => mark && l.holds p) (spots text) marks
  | chars s, marks =>
    false :: List.zipWith (fun (c : Char) mark => mark && s.mem c.toNat) text marks
  | seq a b, marks => b.advance text (a.advance text marks)
  | alt a b, marks => join (a.advance text marks) (b.advance text marks)
  | group a, marks => a.advance text marks
  | rep a min max, marks =>
    let rounds := match max with
      | some most => Nat.min (most - min) (text.length + 1)
      | none => text.length + 1
    spread (a.advance text) rounds (iterate (a.advance text) min marks)

/-- Whether the expression matches some part of the text. -/
def occursIn (r : Regex) (text : String) : Bool :=
  let chars := text.toList
  (r.advance chars (List.replicate (chars.length + 1) true)).contains true

end Regex

end SmokeTest
