/-
The size of a regular expression: the room that an automaton over the bytes of UTF-8 takes in which
every counted repetition is written out. Expressions above `weightLimit` are refused.

Main definitions:

* `CharSet.toRanges s` — the members of a set as ascending ranges with gaps between them;
* `byteRows first last` — the characters from `first` to `last` as products of ranges of bytes;
* `Regex.weight r` — the size of an expression.

Design notes: a state takes 32 bytes, a labelled way out of a state 8 and an unlabelled one 4. A set
of ASCII characters is one state with a way for each range. Any other set has a path for each row of
byte ranges, and rows share the states of a common beginning.
-/
import SmokeTest.Regex.Basic

namespace SmokeTest.Regex

/-! ### Sets as ranges -/

/-- The greatest number of a character. -/
def lastChar : Nat := 0x10FFFF

/-- Puts a range in front of ascending ranges, none of which begins before it. -/
def consRange (r : Nat × Nat) : List (Nat × Nat) → List (Nat × Nat)
  | [] => [r]
  | s :: rest =>
    if s.1 ≤ r.2 + 1 then consRange (r.1, Nat.max r.2 s.2) rest else r :: s :: rest

/-- The ranges in ascending order, those that touch made one. -/
def sortRanges (rs : List (Nat × Nat)) : List (Nat × Nat) :=
  ((rs.filter fun r => r.1 ≤ r.2).mergeSort fun a b => a.1 ≤ b.1).foldr consRange []

/-- The gaps between ascending ranges, from a number on. -/
def gapsFrom (first : Nat) : List (Nat × Nat) → List (Nat × Nat)
  | [] => if first ≤ lastChar then [(first, lastChar)] else []
  | r :: rest =>
    if first < r.1 then (first, r.1 - 1) :: gapsFrom (r.2 + 1) rest else gapsFrom (r.2 + 1) rest

/-- The characters that fold to another one, and those that they fold to, wherever one of the two
lies in the ranges. -/
def casePairs (rs : List (Nat × Nat)) : List (Nat × Nat) :=
  Text.foldRuns.flatMap fun run =>
    (List.range ((run.last - run.first) / run.step + 1)).flatMap fun i =>
      let n : Nat := run.first + i * run.step
      let folded : Nat := ((n : Int) + run.shift).toNat
      if Text.inRanges rs n || Text.inRanges rs folded then [(n, n), (folded, folded)] else []

/-- The members of a set, as ascending ranges that do not touch. -/
def CharSet.toRanges : CharSet → List (Nat × Nat)
  | ranges rs => sortRanges rs
  | union a b => sortRanges (a.toRanges ++ b.toRanges)
  | inter a b =>
    gapsFrom 0 (sortRanges (gapsFrom 0 a.toRanges ++ gapsFrom 0 b.toRanges))
  | diff a b => gapsFrom 0 (sortRanges (gapsFrom 0 a.toRanges ++ b.toRanges))
  | symmDiff a b =>
    let both := gapsFrom 0 (sortRanges (gapsFrom 0 a.toRanges ++ gapsFrom 0 b.toRanges))
    gapsFrom 0 (sortRanges (gapsFrom 0 (sortRanges (a.toRanges ++ b.toRanges)) ++ both))
  | compl a => gapsFrom 0 a.toRanges
  | sameCase a =>
    let rs := a.toRanges
    let folded := sortRanges (rs ++ casePairs rs)
    sortRanges (folded ++ casePairs folded)
  | sameCaseAscii a =>
    let rs := a.toRanges
    sortRanges (rs ++ ((List.range 128).filter (Text.inRanges rs)).map fun n =>
      (swapAsciiCase n, swapAsciiCase n))

/-! ### Rows of bytes -/

/-- The numbers from `first` to `last` as rows of ranges of base 64 digits, so many of them behind
the leading one. -/
def digitRows (first last : Nat) : Nat → List (List (Nat × Nat))
  | 0 => [[(first, last)]]
  | count + 1 =>
    let unit := Nat.pow 64 (count + 1)
    let top (n : Nat) (rows : List (List (Nat × Nat))) := rows.map fun row => (n, n) :: row
    if first / unit == last / unit then
      top (first / unit) (digitRows (first % unit) (last % unit) count)
    else
      let partialLow := first % unit != 0
      let partialHigh := last % unit != unit - 1
      let low := if partialLow then first / unit + 1 else first / unit
      let high := if partialHigh then last / unit else last / unit + 1
      (if partialLow then top (first / unit) (digitRows (first % unit) (unit - 1) count) else []) ++
      (if low < high then [(low, high - 1) :: List.replicate (count + 1) (0, 63)] else []) ++
      (if partialHigh then top (last / unit) (digitRows 0 (last % unit) count) else [])

/-- The characters from `first` to `last`, those of each encoded length by themselves, without the
surrogates. -/
def byteRows (first last : Nat) : List (List (Nat × Nat)) :=
  [(0x0, 0x7F, 0), (0x80, 0x7FF, 1), (0x800, 0xD7FF, 2), (0xE000, 0xFFFF, 2),
    (0x10000, 0x10FFFF, 3)].flatMap fun (low, high, count) =>
      let first := Nat.max first low
      let last := Nat.min last high
      if first ≤ last then (digitRows first last count).map fun row => (count, count) :: row else []

/-- The number of members with which both lists begin. -/
def sharedCount (a b : List (Nat × Nat)) : Nat :=
  ((a.zip b).takeWhile fun (x, y) => x == y).length

/-- The room that the rows take behind a given one. -/
def rowsWeight (before : List (Nat × Nat)) : List (List (Nat × Nat)) → Nat
  | [] => 0
  | row :: rest => 4 + 32 * (row.length - Nat.max 1 (sharedCount before row)) + rowsWeight row rest

/-! ### Expressions -/

/-- The size of a set of characters. A single character is written byte by byte. -/
def rangesWeight (rs : List (Nat × Nat)) : Nat :=
  match rs with
  | [] => 32
  | rs =>
    let rows := rs.flatMap fun (first, last) => byteRows first last
    match rs with
    | [(first, last)] =>
      if first == last then 32 * (Char.ofNat first).utf8Size
      else if last < 0x80 then 72
      else 64 + rowsWeight [] rows
    | _ =>
      if rs.all fun r => r.2 < 0x80 then 64 + 8 * rs.length
      else 64 + rowsWeight [] rows

/-- The set of the characters that an expression matches, if it matches single characters only. -/
def toSet? : Regex → Option CharSet
  | .chars s => some s
  | .alt a b => do return .union (← a.toSet?) (← b.toSet?)
  | _ => none

/-- Whether the expression can match the empty text. -/
def canBeEmpty : Regex → Bool
  | .empty | .look _ => true
  | .chars _ => false
  | .seq a b => a.canBeEmpty && b.canBeEmpty
  | .alt a b => a.canBeEmpty || b.canBeEmpty
  | .group a => a.canBeEmpty
  | .rep a min _ => min == 0 || a.canBeEmpty

/-- The size of an expression. -/
def weight : Regex → Nat
  | .empty => 0
  | .look _ => 32
  | .chars s => rangesWeight s.toRanges
  | .seq a b => a.weight + b.weight
  | .alt a b =>
    match toSet? (.alt a b) with
    | some s => rangesWeight s.toRanges
    | none => a.weight + b.weight + 40
  | .group a => a.weight + 64
  | .rep a min max =>
    match max with
    | some most =>
      if most == 0 then 32
      else if min == most then most * a.weight
      else min * a.weight + (most - min) * (40 + a.weight) + 32
    | none =>
      Nat.max min 1 * a.weight + if min == 0 && a.canBeEmpty then 112 else 40

/-- The greatest acceptable size. -/
def weightLimit : Nat := 10485760

end SmokeTest.Regex
