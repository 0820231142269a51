/-
Sets of characters: ranges, closed under the operations that a bracketed class can write.

Main definitions:

* `CharSet.mem s n` — whether the character with number `n` belongs to `s`;
* `CharSet.sameCase s` — all characters equal up to case to one of `s`.
-/
import SmokeTest.Text.Case

namespace SmokeTest.Regex

/-- A set of characters. -/
inductive CharSet
  /-- The characters of the closed ranges. -/
  | ranges (rs : List (Nat × Nat))
  | union (a b : CharSet)
  | inter (a b : CharSet)
  | diff (a b : CharSet)
  | symmDiff (a b : CharSet)
  | compl (a : CharSet)
  /-- All characters that differ at most in case from one of the set. -/
  | sameCase (a : CharSet)
  /-- The same for the letters of ASCII alone. -/
  | sameCaseAscii (a : CharSet)
  deriving Repr, Inhabited

namespace CharSet

/-- The other case of an ASCII letter; every other number stays as it is. -/
def swapAsciiCase (n : Nat) : Nat :=
  if 0x41 ≤ n && n ≤ 0x5A then n + 0x20
  else if 0x61 ≤ n && n ≤ 0x7A then n - 0x20
  else n

/-- Whether the character with number `n` belongs to the set. -/
def mem : CharSet → Nat → Bool
  | ranges rs, n => Text.inRanges rs n
  | union a b, n => a.mem n || b.mem n
  | inter a b, n => a.mem n && b.mem n
  | diff a b, n => a.mem n && !b.mem n
  | symmDiff a b, n => a.mem n != b.mem n
  | compl a, n => !a.mem n
  | sameCase a, n => (Text.caseOrbit n).any a.mem || a.mem n
  | sameCaseAscii a, n => a.mem n || a.mem (swapAsciiCase n)

/-- The set with no character. -/
def empty : CharSet := ranges []

/-- The set with one character. -/
def single (c : Char) : CharSet := ranges [(c.toNat, c.toNat)]

/-- Whether every member has a number below 128, among the numbers of one byte. -/
def isAscii (s : CharSet) : Bool :=
  (List.range 128).all fun i => !s.mem (128 + i)

end CharSet

end SmokeTest.Regex
