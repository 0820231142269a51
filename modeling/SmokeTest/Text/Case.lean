/-
Full case mapping of texts.

Main definitions:

* `lower s` — the text in small letters; a capital sigma becomes `ς` at the end of a word and `σ`
  elsewhere, so the mapping of a text is not the mapping of its parts;
* `upper s` — the text in capital letters, where `ß` becomes `SS`;
* `caseOrbit n` — the characters that differ from a character in case only.
-/
import SmokeTest.Text.CaseTable

namespace SmokeTest.Text

/-- The numbers of the characters equal to the one with number `n` up to case, itself included. -/
def caseOrbit (n : Nat) : List Nat :=
  let folded := mapByRuns foldRuns n
  folded :: foldRuns.filterMap fun r =>
    let m := ((folded : Int) - r.shift).toNat
    if r.covers m then some m else none

/-- The small form of a single character, without regard to its neighbours. -/
def lowerChar (c : Char) : List Char :=
  if c = 'İ' then ['i', '\u0307'] else [Char.ofNat (mapByRuns lowerRuns c.toNat)]

/-- The capital form of a single character. -/
def upperChar (c : Char) : List Char :=
  match upperExpansions.find? fun (n, _) => n == c.toNat with
  | some (_, image) => image.map Char.ofNat
  | none => [Char.ofNat (mapByRuns upperRuns c.toNat)]

/-- Whether a letter with case comes next, characters that case ignores left out. -/
def casedNext (s : List Char) : Bool :=
  match s.dropWhile fun c => inRanges caseIgnorableRanges c.toNat with
  | [] => false
  | c :: _ => inRanges casedRanges c.toNat

/-- A sigma between `before` (reversed) and `after` ends a word if a letter with case precedes it
and none follows. -/
def isFinalSigma (before after : List Char) : Bool :=
  casedNext before && !casedNext after

/-- The small form of a text that follows the reversed text `before`. -/
def lowerFrom (before : List Char) : List Char → List Char
  | [] => []
  | c :: rest =>
    let image :=
      if c = 'Σ' then [if isFinalSigma before rest then 'ς' else 'σ'] else lowerChar c
    image ++ lowerFrom (c :: before) rest

/-- The text in small letters. -/
def lower (s : List Char) : List Char :=
  lowerFrom [] s

/-- The text in capital letters. -/
def upper (s : List Char) : List Char :=
  s.flatMap upperChar

end SmokeTest.Text
